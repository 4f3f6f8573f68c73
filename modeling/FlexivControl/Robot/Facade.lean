/-
The robot facade: mode starts, blocking chunks, joint moves, gripper, home and
the cooperative cancel.

Every method is a program over the shared operations; the facade's own fields
are its memory. Sleeping between ticks is not an operation.
-/

import FlexivControl.Core.Effects

namespace FlexivControl

variable {K : Type} [Scalar K]

/-- Single-process convenience: an unowned facade leases itself to "default". -/
def checkLease : RobotM K Unit := do
  match ← perform .facadeOwner with
  | none => perform (.setFacadeOwner "default")
  | some _ => pure ()

def Robot.withProfile (robot : Robot K) (profile : SafetyProfile K) : Robot K :=
  { robot with profile := profile, filter := robot.filter.setProfile profile }

def setSafetyProfile (name : String) : RobotM K Unit := do
  let profile ← attempt (← perform (.loadSafetyProfile name))
  modify (·.withProfile profile)
  perform (.setSafetyProfile profile)

def readState : RobotM K (RobotState K) := do
  attempt (← perform .readState)

/-- Read the backend and keep the snapshot for `peek_state`. -/
def getState : RobotM K (RobotState K) := do
  let state ← readState
  perform (.publishState state)
  pure state

def inFault : RobotM K Bool := do
  attempt (← perform .inFault)

def resetFilter (state : RobotState K) : RobotM K Unit :=
  modify fun robot => { robot with filter := robot.filter.reset (some state) }

/-- Run the Cartesian filter and keep what it remembers. -/
def filterCartesian (pose : Pose K) (state : RobotState K) (cap : Option (Wrench K)) :
    RobotM K (SafetyResult K) := do
  let robot ← get
  let (result, filter) := robot.filter.filterCartesian pose state cap
  set { robot with filter := filter }
  pure result

def filterJoint (q : List K) (state : RobotState K) : RobotM K (SafetyResult K) := do
  let robot ← get
  let (result, filter) ← attempt (robot.filter.filterJoint q state)
  set { robot with filter := filter }
  pure result

def Robot.cartesianImpedance (robot : Robot K) (impedance : Option (ImpedanceParams K) := none)
    (realtime : Bool := false) (forceControl : Option (ForceControlParams K) := none)
    (nullspaceQ : Option (List K) := none) : BackendCall K :=
  .setMode (if realtime then .rtCartesianMotionForce else .nrtCartesianMotionForce)
    { impedance := some (impedance.getD {})
      forceControl := forceControl
      nullspaceQ := some (nullspaceQ.getD robot.cfg.qHome)
      maxContactWrench := some robot.profile.maxContactWrench }

def startCartesianImpedance (impedance : Option (ImpedanceParams K) := none)
    (realtime : Bool := false) (forceControl : Option (ForceControlParams K) := none)
    (nullspaceQ : Option (List K) := none) : RobotM K Unit := do
  let robot ← get
  backend (robot.cartesianImpedance impedance realtime forceControl nullspaceQ)

def jointImpedanceCall (jointImpedance : Option (JointImpedanceParams K) := none)
    (realtime : Bool := false) : BackendCall K :=
  .setMode (if realtime then .rtJointImpedance else .nrtJointImpedance)
    { jointImpedance := some (jointImpedance.getD {}) }

def startJointImpedance (jointImpedance : Option (JointImpedanceParams K) := none)
    (realtime : Bool := false) : RobotM K Unit :=
  backend (jointImpedanceCall jointImpedance realtime)

/-! ### Blocking Cartesian chunks -/

def profileMismatch (requested active : String) : Exc :=
  ⟨.valueError, "chunk requests safety profile '" ++ requested ++ "' but the active profile is '" ++
    active ++ "'; call set_safety_profile('" ++ requested ++ "') first or fix the chunk"⟩

def verifyChunkProfile (requested : String) (result : ExecutionResult K) :
    RobotM K (ExecutionResult K) := do
  let robot ← get
  let active := robot.profile.name
  let result := (result.note "requested_profile" (.text requested)).note "active_profile" (.text active)
  if requested ≠ "" ∧ requested ≠ active then throw (profileMismatch requested active)
  else pure result

def returnResult (result : ExecutionResult K) (raiseOnStop : Bool) :
    RobotM K (ExecutionResult K) := do
  perform (.chunkReturns result.success result.stopReason)
  if raiseOnStop ∧ ¬ result.success then throw ⟨.chunkStoppedError, "chunk stopped"⟩
  else pure result

def abortAtEntry (raiseOnStop : Bool) : RobotM K (ExecutionResult K) := do
  perform .cancelClear
  let result : ExecutionResult K := ({} : ExecutionResult K).stop .user
  let result := result.note "aborted_at_entry" (.flag true)
  let final ← getState
  returnResult { result with finalState := some final } raiseOnStop

def cancelTick : RobotM K Unit := do
  perform .cancelClear
  backend .stop

def tightenedCap (profileCap chunkCap : K) : K :=
  if 0 < chunkCap then Scalar.lesser profileCap chunkCap else profileCap

def grantedAllowance (profile : SafetyProfile K) (chunk : CartesianChunk K) : Option (Wrench K) :=
  match chunk.contactWrenchAllowance with
  | none => none
  | some request =>
      let allow : Wrench K := fun axis =>
        Scalar.minimum (request axis) (profile.maxWrenchAllowance axis)
      if (List.finRange cartDof).any fun axis => decide (0 < allow axis) then some allow else none

/-- The contact cap in force while the chunk runs. -/
def effectiveWrenchCap (profile : SafetyProfile K) (chunk : CartesianChunk K) : Wrench K :=
  let cap : Wrench K := match grantedAllowance profile chunk with
    | none => profile.maxContactWrench
    | some allow => fun axis => profile.maxContactWrench axis + allow axis
  match chunk.maxContactWrench with
  | none => cap
  | some tighter => fun axis => Scalar.minimum (cap axis) (tighter axis)

def chunkWrench (chunk : CartesianChunk K) : Option (Wrench K) :=
  match chunk.forceControl with
  | none => none
  | some force =>
      if (List.finRange cartDof).any force.enabledAxes then some force.targetWrench else none

def wrenchList (w : Wrench K) : List K := (List.finRange cartDof).map w

def poseList (p : Pose K) : List K :=
  [p.pos.x, p.pos.y, p.pos.z, p.quat.w, p.quat.x, p.quat.y, p.quat.z]

structure ChunkRun (K : Type) [Scalar K] where
  result : ExecutionResult K
  maxErr : K := 0
  maxSpeed : K := 0
  maxWrench : K := 0
  prevPos : Vec3 K
  prevCmdPos : Option (Vec3 K) := none
  closeAborted : Bool := false
  closeIssued : Bool := false
  pendingClose : Option (GripperCommand K × Int) := none
  tickIdx : Nat := 0
  trajectory : Option (List (List K)) := none
  currentSegment : Nat := 0

def ChunkRun.stop (run : ChunkRun K) (reason : StopReason) : ChunkRun K :=
  { run with result := run.result.stop reason }

/-- Seconds to let the arm converge before the close gate is judged. -/
def gripGateSettleS : K := Scalar.ofRat (35 / 100)

def ChunkRun.trackingError (run : ChunkRun K) (state : RobotState K) : K :=
  match run.prevCmdPos with
  | none => 0
  | some cmd => (cmd - state.tcpPose.pos).norm

def tryFireClose (chunk : CartesianChunk K) (run : ChunkRun K) (g : GripperCommand K)
    (state : RobotState K) : RobotM K (ChunkRun K) := do
  let errNow := run.trackingError state
  let gate := chunk.gripTrackingGateM.getD 0
  if run.closeAborted ∨ run.result.clipped ∨ gate < errNow then
    if run.closeAborted then pure run
    else
      let note := LogValue.closeAborted run.currentSegment errNow gate run.result.clipped
      pure { run with closeAborted := true, result := run.result.note "close_aborted" note }
  else
    backend (.moveGripper g)
    pure { run with closeIssued := true }

/-- A command that would close: a grasp, or narrower than a sane measured width. -/
def isClosing (grip : GripperCommand K) (state : RobotState K) : Bool :=
  grip.grasp ||
    (decide (Scalar.ofRat (1 / 1000000) < state.gripperWidth) &&
      decide (grip.width < state.gripperWidth - Scalar.ofRat (1 / 1000)))

/-- A deferred close whose settle window has elapsed is judged on this tick. -/
def firePending (chunk : CartesianChunk K) (run : ChunkRun K) (state : RobotState K) :
    RobotM K (ChunkRun K) :=
  match run.pendingClose with
  | none => pure run
  | some (g, fireAt) =>
      if fireAt ≤ run.tickIdx then tryFireClose chunk { run with pendingClose := none } g state
      else pure run

/-- A second close arriving before the first is settled: judge the first now. -/
def settleFirst (chunk : CartesianChunk K) (run : ChunkRun K) (state : RobotState K) :
    RobotM K (ChunkRun K) :=
  match run.pendingClose with
  | none => pure run
  | some (g, _) => tryFireClose chunk { run with pendingClose := none } g state

def handleGripper (chunk : CartesianChunk K) (controlHz : K) (segmentTicks : Nat)
    (run : ChunkRun K) (grip : GripperCommand K) (state : RobotState K) :
    RobotM K (ChunkRun K) := do
  let closing := isClosing grip state
  let gateActive := chunk.gripTrackingGateM.isSome && !(grip.grasp && run.closeIssued)
  if closing && gateActive then
    if run.closeAborted then pure run
    else
      let run ← settleFirst chunk run state
      let settle := min (Scalar.round (gripGateSettleS * controlHz))
        (max 1 ((segmentTicks : Int) / 2))
      pure { run with pendingClose := some (grip, run.tickIdx + settle) }
  else
    backend (.moveGripper grip)
    pure { run with closeIssued := run.closeIssued || closing }

/-- Tracking error, speed and wrench seen on a tick. -/
def ChunkRun.record (run : ChunkRun K) (dt : K) (state : RobotState K) (commanded : Vec3 K) :
    ChunkRun K :=
  let maxErr := match run.prevCmdPos with
    | none => run.maxErr
    | some cmd => Scalar.greater run.maxErr (cmd - state.tcpPose.pos).norm
  let speed := (state.tcpPose.pos - run.prevPos).norm / dt
  let wrench := (wrenchList state.wrench).foldl (fun m w => Scalar.maximum m (Scalar.abs w)) 0
  { run with
    maxErr := maxErr
    maxSpeed := Scalar.greater run.maxSpeed speed
    maxWrench := Scalar.greater run.maxWrench wrench
    prevPos := state.tcpPose.pos
    prevCmdPos := some commanded }

def gripperPhase (chunk : CartesianChunk K) (controlHz : K) (sp : CartesianSetpoint K)
    (run : ChunkRun K) (state : RobotState K) : RobotM K (ChunkRun K) :=
  match sp.gripper with
  | none => pure run
  | some grip => handleGripper chunk controlHz sp.segmentTicks run grip state

/-- A row `[t, *pose_cmd, *pose_meas, *wrench]` of the recorded trajectory. -/
def recordRow (t0 : K) (pose : Pose K) (state : RobotState K) (run : ChunkRun K) :
    RobotM K (ChunkRun K) :=
  match run.trajectory with
  | none => pure run
  | some rows => do
      let now ← perfCounter
      let row := (now - t0) :: (poseList pose ++ poseList state.tcpPose ++ wrenchList state.wrench)
      pure { run with trajectory := some (rows ++ [row]) }

def afterStream (chunk : CartesianChunk K) (t0 : K) (sp : CartesianSetpoint K)
    (state : RobotState K) (pose : Pose K) (run : ChunkRun K) : RobotM K (ChunkRun K) := do
  let robot ← get
  let run ← firePending chunk run state
  let run ← gripperPhase chunk robot.controlHz sp run state
  let run ← recordRow t0 pose state run
  pure (run.record robot.dt state pose.pos)

/-- One tick: cancel, fault and contact gates, filter, stream. The flag says
whether the loop goes on. -/
def cartesianTick (chunk : CartesianChunk K) (wrenchCap : Wrench K) (t0 : K)
    (sp : CartesianSetpoint K) (run : ChunkRun K) : RobotM K (ChunkRun K × Bool) := do
  let run := { run with tickIdx := run.tickIdx + 1, currentSegment := sp.segment }
  if ← cancelIsSet .tick then
    cancelTick
    return (run.stop .user, false)
  let state ← getState
  if ← inFault then
    backend .stop
    return (run.stop .backendFault, false)
  if exceeds state.wrench wrenchCap then
    backend .stop
    return (run.stop .contactWrench, false)
  let sr ← filterCartesian sp.pose state (some wrenchCap)
  match sr.ok, sr.pose with
  | true, some pose =>
      let run := if sr.clipped then { run with result := { run.result with clipped := true } } else run
      backend (.streamCartesian pose (chunkWrench chunk))
      let run ← afterStream chunk t0 sp state pose run
      return (run, true)
  | _, _ =>
      backend .stop
      return (run.stop sr.reason, false)

def cartesianTicks (chunk : CartesianChunk K) (wrenchCap : Wrench K) (t0 : K) :
    List (CartesianSetpoint K) → ChunkRun K → RobotM K (ChunkRun K)
  | [], run => pure run
  | sp :: rest, run => do
      let (run, goOn) ← cartesianTick chunk wrenchCap t0 sp run
      if goOn then cartesianTicks chunk wrenchCap t0 rest run else pure run

/-- A close still pending when the ticks end is judged on a clean finish and
recorded as aborted on a stop. -/
def resolvePending (chunk : CartesianChunk K) (run : ChunkRun K) : RobotM K (ChunkRun K) := do
  match run.pendingClose with
  | none => pure run
  | some (g, _) =>
      let run := { run with pendingClose := none }
      if run.result.success then tryFireClose chunk run g (← getState)
      else if run.closeAborted then pure run
      else
        let note := LogValue.closeStopped run.currentSegment run.result.stopReason
          (chunk.gripTrackingGateM.getD 0) run.result.clipped
        pure { run with closeAborted := true, result := run.result.note "close_aborted" note }

/-- Re-arm the firmware guard after a relaxed chunk; a failure is only noted. -/
def restoreWrenchLimit (relaxed : Bool) (run : ChunkRun K) : RobotM K (ChunkRun K) := do
  if relaxed then
    let robot ← get
    match ← perform (.write (.setContactWrenchLimit robot.profile.maxContactWrench)) with
    | .ok _ => pure run
    | .error _ => pure { run with result := run.result.note "wrench_restore_failed" (.flag true) }
  else pure run

/-- The guarded part of the executor: ticks, then the pending close, and the
restored guard however they end. -/
def guardedTicks (chunk : CartesianChunk K) (wrenchCap : Wrench K) (relaxed : Bool) (t0 : K)
    (setpoints : List (CartesianSetpoint K)) (run : ChunkRun K) : RobotM K (ChunkRun K) := do
  let outcome ← tryCatch
    (do
      let run ← cartesianTicks chunk wrenchCap t0 setpoints run
      let run ← resolvePending chunk run
      pure (Except.ok run : Except Exc (ChunkRun K)))
    (fun e => pure (.error e))
  match outcome with
  | .ok run => restoreWrenchLimit relaxed run
  | .error e => do
      let _ ← restoreWrenchLimit relaxed run
      throw e

def ChunkRun.report (run : ChunkRun K) (start final : RobotState K) : ExecutionResult K :=
  let result := { run.result with
    executedDuration := final.stamp - start.stamp
    pathTrackingError := run.maxErr
    maxTcpSpeed := run.maxSpeed
    maxWrench := run.maxWrench
    gripperWidthFinal := final.gripperWidth
    finalState := some final }
  let result := match run.trajectory with
    | none => result
    | some rows => result.note "trajectory" (.rows rows)
  if result.success then result
  else result.note "stopped_at_waypoint" (.index run.currentSegment)

/-- Start the Cartesian mode the chunk needs when the robot is not in one. -/
def ensureCartesianStart (chunk : CartesianChunk K) (result : ExecutionResult K) :
    RobotM K (RobotState K × ExecutionResult K) := do
  let start ← getState
  if start.controlMode.isCartesian then pure (start, result)
  else
    startCartesianImpedance (some chunk.impedance)
    let start ← getState
    pure (start, result.note "mode_autostarted" (.flag true))

/-- The firmware guard follows a relaxed cap; otherwise it stays as the mode armed it. -/
def armWrenchLimit (relaxed : Bool) (wrenchCap : Wrench K) : RobotM K Unit :=
  if relaxed then backend (.setContactWrenchLimit wrenchCap) else pure ()

def executorInterpolator (resolved : CartesianChunk K) (startPose : Pose K)
    (profile : SafetyProfile K) (controlHz : K) : CartesianChunkInterpolator K where
  chunk := resolved
  startPose := startPose
  hz := controlHz
  maxLinearSpeed := some (tightenedCap profile.maxLinearSpeed resolved.maxTcpLinearSpeed)
  maxAngularSpeed := some (tightenedCap profile.maxAngularSpeed resolved.maxTcpAngularSpeed)

/-- Everything after the entry test: verify, start, tighten, run, report. -/
def runCartesianChunk (chunk : CartesianChunk K) (raiseOnStop record : Bool) :
    RobotM K (ExecutionResult K) := do
  let result ← verifyChunkProfile chunk.safetyProfile {}
  let (start, result) ← ensureCartesianStart chunk result
  resetFilter start
  let chunk ← attempt (chunk.forExecution start.tcpPose)
  let robot ← get
  let profile := robot.profile
  let linCap := tightenedCap profile.maxLinearSpeed chunk.maxTcpLinearSpeed
  let angCap := tightenedCap profile.maxAngularSpeed chunk.maxTcpAngularSpeed
  let result := (result.note "linear_speed_cap" (.number linCap)).note
    "angular_speed_cap" (.number angCap)
  let granted := grantedAllowance profile chunk
  let result := match granted with
    | none => result
    | some allow => result.note "contact_wrench_allowance" (.numbers (wrenchList allow))
  let wrenchCap := effectiveWrenchCap profile chunk
  let interp := executorInterpolator chunk start.tcpPose profile robot.controlHz
  armWrenchLimit granted.isSome wrenchCap
  let t0 ← perfCounter
  let run ← guardedTicks chunk wrenchCap granted.isSome t0 interp.setpoints
    { result := result, prevPos := start.tcpPose.pos
      trajectory := if record then some [] else none }
  let final ← getState
  returnResult (run.report start final) raiseOnStop

def executeCartesianChunk (chunk : CartesianChunk K) (raiseOnStop : Bool := false)
    (record : Bool := false) : RobotM K (ExecutionResult K) := do
  checkLease
  if ← cancelIsSet .entry then abortAtEntry raiseOnStop
  else runCartesianChunk chunk raiseOnStop record

/-! ### Servo moves -/

def durationOr (duration : Option K) (dt : K) : K :=
  match duration with
  | none => dt
  | some duration => if duration ≤ 0 ∧ 0 ≤ duration then dt else duration

def servoCartesianDelta (translation rotation : Vec3 K) (duration : Option K := none)
    (frame : String := "base") (gripper : Option (GripperCommand K) := none) :
    RobotM K (ExecutionResult K) := do
  checkLease
  let robot ← get
  let state ← getState
  let target ← attempt (integratePose state.tcpPose translation rotation frame)
  let wp ← attempt (CartesianWaypoint.create target.pos (some target.quat) gripper none
    (some (durationOr duration robot.dt)) frame)
  executeCartesianChunk
    { waypoints := [wp], frame := frame, safetyProfile := robot.profile.name
      nonempty := List.cons_ne_nil _ _
      allowanceNonneg := no_allowance
      gatePositive := no_gate }

def servoCartesianPose (pose : Pose K) (duration : K := Scalar.ofRat (2 / 10))
    (gripper : Option (GripperCommand K) := none) : RobotM K (ExecutionResult K) := do
  let robot ← get
  let wp ← attempt (CartesianWaypoint.create pose.pos (some pose.quat) gripper none (some duration))
  executeCartesianChunk
    { waypoints := [wp], safetyProfile := robot.profile.name
      nonempty := List.cons_ne_nil _ _
      allowanceNonneg := no_allowance
      gatePositive := no_gate }

/-! ### Blocking joint chunks -/

def jointTick (q : List K) (result : ExecutionResult K) : RobotM K (ExecutionResult K × Bool) := do
  if ← cancelIsSet .tick then
    cancelTick
    return (result.stop .user, false)
  let state ← getState
  if ← inFault then
    backend .stop
    return (result.stop .backendFault, false)
  let robot ← get
  if exceeds state.wrench robot.profile.maxContactWrench then
    backend .stop
    return (result.stop .contactWrench, false)
  let sr ← filterJoint q state
  match sr.ok, sr.q with
  | true, some q =>
      backend (.streamJoint q)
      return (if sr.clipped then { result with clipped := true } else result, true)
  | _, _ =>
      backend .stop
      return (result.stop sr.reason, false)

/-- The generator raises where its next value does not exist. -/
def jointTicks : List (Except Exc (List K)) → ExecutionResult K → RobotM K (ExecutionResult K)
  | [], result => pure result
  | next :: rest, result => do
      let q ← attempt next
      let (result, goOn) ← jointTick q result
      if goOn then jointTicks rest result else pure result

def ensureJointStart (result : ExecutionResult K) :
    RobotM K (RobotState K × ExecutionResult K) := do
  let start ← getState
  if start.controlMode.isCartesian ∨ start.controlMode = .idle then
    startJointImpedance
    let start ← getState
    pure (start, result.note "mode_autostarted" (.flag true))
  else pure (start, result)

def runJointChunk (chunk : JointChunk K) (raiseOnStop : Bool) : RobotM K (ExecutionResult K) := do
  let result ← verifyChunkProfile chunk.safetyProfile {}
  let (start, result) ← ensureJointStart result
  resetFilter start
  let robot ← get
  let interp : JointChunkInterpolator K :=
    { chunk := chunk, startQ := start.q, hz := robot.controlHz,
      maxJointSpeed := some (Scalar.ofNat 2 * robot.profile.maxJointSpeedScale) }
  let _ ← perfCounter
  let result ← jointTicks interp.setpoints result
  let final ← getState
  returnResult { result with finalState := some final } raiseOnStop

def executeJointChunk (chunk : JointChunk K) (raiseOnStop : Bool := false) :
    RobotM K (ExecutionResult K) := do
  checkLease
  if ← cancelIsSet .entry then abortAtEntry raiseOnStop
  else runJointChunk chunk raiseOnStop

/-- A fixed time, or the largest excursion at a speed cap, or the default. -/
def jointMoveDuration (qNow qTarget : List K) (duration maxJointSpeed : Option K)
    (default : K := Scalar.ofNat 3) (floor : K := 1) : Except Exc K :=
  match duration, maxJointSpeed with
  | some duration, _ => .ok duration
  | none, none => .ok default
  | none, some speed =>
      if 0 < speed then do
        let move ← broadcast (· - ·) qTarget qNow
        let dq ← maxAbs move
        .ok (Scalar.greater floor (dq / speed))
      else .ok default

def moveJoint (qTarget : List K) (duration : Option K := none) (maxJointSpeed : Option K := none)
    (realtime : Bool := false) : RobotM K (ExecutionResult K) := do
  checkLease
  let now ← getState
  let dur ← attempt (jointMoveDuration now.q qTarget duration maxJointSpeed)
  startJointImpedance none realtime
  let robot ← get
  executeJointChunk
    { waypoints := [{ positions := qTarget, duration := some dur, timed := Or.inr rfl }]
      safetyProfile := robot.profile.name
      nonempty := List.cons_ne_nil _ _ }

/-! ### Gripper, home -/

def gripperSettled (cmd : GripperCommand K) (prevWidth : Option K) (moved : Bool)
    (elapsed : K) (state : RobotState K) : Bool :=
  let settledTarget := !cmd.grasp &&
    decide (Scalar.abs (state.gripperWidth - cmd.width) < Scalar.ofRat (2 / 1000))
  let settledStill := match prevWidth with
    | none => false
    | some prev =>
        decide (Scalar.abs (state.gripperWidth - prev) < Scalar.ofRat (5 / 10000)) &&
          !state.gripperIsMoving && (moved || decide (Scalar.ofRat (1 / 2) ≤ elapsed))
  settledTarget || settledStill

/-- Poll the width until it settles, a stop is requested or the time is up. Each
poll sleeps 50 ms, which bounds their number. -/
def awaitGripper (cmd : GripperCommand K) (timeout t0 initial : K) :
    Nat → Option K → Bool → RobotState K → RobotM K K
  | 0, _, _, state => pure state.gripperWidth
  | polls + 1, prevWidth, moved, state => do
      if (← wallClock) - t0 < timeout then
        if ← cancelIsSet .gripperWait then return state.gripperWidth
        let state ← getState
        let moved := moved || state.gripperIsMoving ||
          decide (Scalar.ofRat (1 / 1000) < Scalar.abs (state.gripperWidth - initial))
        let elapsed := (← wallClock) - t0
        if gripperSettled cmd prevWidth moved elapsed state then return state.gripperWidth
        awaitGripper cmd timeout t0 initial polls (some state.gripperWidth) moved state
      else pure state.gripperWidth

def commandGripper (cmd : GripperCommand K) (wait : Bool := false)
    (timeout : K := Scalar.ofNat 5) : RobotM K (Option K) := do
  checkLease
  let initial := (← getState).gripperWidth
  backend (.moveGripper cmd)
  if wait then
    let t0 ← wallClock
    let state ← getState
    let polls := (Scalar.ceil (timeout / Scalar.ofRat (5 / 100))).toNat + 1
    let width ← awaitGripper cmd timeout t0 initial polls none false state
    pure (some width)
  else pure none

def zeroFtSensor : RobotM K Unit := do
  checkLease
  backend .zeroFtSensor

def vendorHome (qHome : List K) (isExplicit : Bool) : RobotM K Unit :=
  if isExplicit then throw ⟨.notImplementedError, ""⟩ else backend (.home qHome)

def homeGripper (width : Option K) : RobotM K Unit :=
  match width with
  | none => pure ()
  | some width => do
      let _ ← commandGripper { width := width } true
      pure ()

def home (q : Option (List K) := none) (maxJointSpeed : Option K := none)
    (duration : Option K := none) : RobotM K Unit := do
  checkLease
  let robot ← get
  let qHome := q.getD robot.cfg.qHome
  tryCatch (vendorHome qHome (q.isSome || duration.isSome || maxJointSpeed.isSome))
    (fun e => do
      if e.kind = .notImplementedError then
        let _ ← moveJoint qHome duration (some (maxJointSpeed.getD (Scalar.ofRat (3 / 10))))
        pure ()
      else throw e)
  homeGripper robot.cfg.gripperHomeWidth

def liftChunk (target : Vec3 K) (liftM maxTcpSpeed : K) : CartesianChunk K where
  waypoints := [{
    position := target
    quaternion := none
    gripper := none
    nFrames := none
    duration := some (Scalar.greater (Scalar.ofRat (15 / 10))
      (liftM / Scalar.greater maxTcpSpeed (Scalar.ofRat (1 / 1000))))
    frame := "base"
    timed := Or.inr rfl
    framesPositive := by intro n none; cases none }]
  maxTcpLinearSpeed := maxTcpSpeed
  nonempty := List.cons_ne_nil _ _
  allowanceNonneg := no_allowance
  gatePositive := no_gate

abbrev Log (K : Type) [Scalar K] := List (String × LogValue K)

/-- 1) Lift straight up; says whether it ended in contact or fault. -/
def liftStage (liftM maxTcpSpeed : K) : RobotM K (Log K × Bool) :=
  tryCatch
    (do
      let s ← getState
      let robot ← get
      let top := Scalar.lesser (s.tcpPose.pos.z + liftM) robot.profile.wsZ.2
      let result ← executeCartesianChunk
        (liftChunk { s.tcpPose.pos with z := top } liftM maxTcpSpeed)
      pure ([("lift", .summary result.summary)],
        result.stopReason = .contactWrench ∨ result.stopReason = .backendFault))
    (fun e => pure ([("lift", .failed e)], false))

def gripperStage (openGripperWidth : Option K) (log : Log K) : RobotM K (Log K) := do
  let robot ← get
  match openGripperWidth <|> robot.cfg.gripperHomeWidth with
  | none => pure log
  | some width =>
      tryCatch
        (do
          let _ ← commandGripper { width := width } true
          pure (log ++ [("gripper", .openedTo width)]))
        (fun e => pure (log ++ [("gripper", .failed e)]))

def ExecutionResult.update (result : ExecutionResult K) (log : Log K) : ExecutionResult K :=
  log.foldl (fun result entry => result.note entry.1 entry.2) result

/-- The joint sweep is skipped after contact, a fault or a stop. -/
def skipHome (log : Log K) : RobotM K (ExecutionResult K) := do
  let stopped ← cancelIsSet .guardReason
  let result : ExecutionResult K :=
    ({} : ExecutionResult K).stop (if stopped then .user else .contactWrench)
  let final ← getState
  let log := log ++
    [("home", .text "skipped: lift ended in contact/fault or a stop was requested")]
  pure ({ result with finalState := some final }.update log)

def homeStage (qHome : Option (List K)) (maxJointSpeed : K) (log : Log K) :
    RobotM K (ExecutionResult K) := do
  let robot ← get
  let result ← moveJoint (qHome.getD robot.cfg.qHome) none (some maxJointSpeed)
  pure (result.update log)

/-- `contact_abort or self._cancel.is_set()`: the flag is only read without contact. -/
def homeForbidden (contactAbort : Bool) : RobotM K Bool :=
  if contactAbort then pure true else cancelIsSet .guard

def goHomeSafe (qHome : Option (List K) := none) (liftM : K := Scalar.ofRat (1 / 10))
    (openGripperWidth : Option K := none) (maxTcpSpeed : K := Scalar.ofRat (1 / 10))
    (maxJointSpeed : K := Scalar.ofRat (3 / 10)) : RobotM K (ExecutionResult K) := do
  checkLease
  let (log, contactAbort) ← liftStage liftM maxTcpSpeed
  let log ← gripperStage openGripperWidth log
  if ← homeForbidden contactAbort then skipHome log
  else homeStage qHome maxJointSpeed log

/-! ### The cooperative cancel -/

def requestStop : RobotM K Unit := perform .cancelSet

def clearStop : RobotM K Unit := perform .cancelClear

def stop : RobotM K Unit := do
  perform .cancelSet
  backend .stop

end FlexivControl
