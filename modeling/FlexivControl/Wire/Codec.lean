/-
The structured objects that cross the wire, encoded and decoded field by field.

Each encoder writes the source's field list and each decoder reads it back with its own
defaults, conversions and checks. The text between the two is exact, so a decoder is
given the value its encoder made.
-/

import FlexivControl.Filter.InSpec
import FlexivControl.Robot.Facade
import FlexivControl.Wire.Values

namespace FlexivControl

def ControlMode.value : ControlMode → String
  | .idle => "idle"
  | .nrtJointPosition => "nrt_joint_position"
  | .nrtJointImpedance => "nrt_joint_impedance"
  | .nrtCartesianMotionForce => "nrt_cartesian_motion_force"
  | .nrtPrimitive => "nrt_primitive"
  | .rtJointPosition => "rt_joint_position"
  | .rtJointImpedance => "rt_joint_impedance"
  | .rtCartesianMotionForce => "rt_cartesian_motion_force"
  | .rtJointTorque => "rt_joint_torque"

def ControlMode.members : List ControlMode :=
  [.idle, .nrtJointPosition, .nrtJointImpedance, .nrtCartesianMotionForce, .nrtPrimitive,
    .rtJointPosition, .rtJointImpedance, .rtCartesianMotionForce, .rtJointTorque]

def SafetyStatus.value : SafetyStatus → String
  | .ok => "ok"
  | .clipped => "clipped"
  | .holding => "holding"
  | .stopped => "stopped"
  | .fault => "fault"

def SafetyStatus.members : List SafetyStatus := [.ok, .clipped, .holding, .stopped, .fault]

def StopReason.value : StopReason → String
  | .none => "none"
  | .user => "user"
  | .staleCommand => "stale_command"
  | .staleState => "stale_state"
  | .workspace => "workspace_limit"
  | .jointLimit => "joint_limit"
  | .tcpSpeed => "tcp_speed_limit"
  | .poseJump => "pose_jump_limit"
  | .contactWrench => "contact_wrench"
  | .lease => "lease_violation"
  | .mode => "mode_incompatible"
  | .backendFault => "backend_fault"

def StopReason.members : List StopReason :=
  [.none, .user, .staleCommand, .staleState, .workspace, .jointLimit, .tcpSpeed, .poseJump,
    .contactWrench, .lease, .mode, .backendFault]

def ChunkRepresentation.value : ChunkRepresentation → String
  | .absolute => "absolute"
  | .relativeToStart => "relative_to_start"

def ChunkRepresentation.members : List ChunkRepresentation := [.absolute, .relativeToStart]

section Codec

variable {K : Type} [Scalar K]

def gripperToDict : Option (GripperCommand K) → Json K
  | none => .null
  | some g => .obj
      [("width", .num g.width), ("force", .num g.force), ("velocity", .num g.velocity),
        ("grasp", .bool g.grasp)]

def gripperFromDict (lang : Language K) : Json K → Except Exc (Option (GripperCommand K))
  | .null => .ok none
  | d => do
      let width ← toFloat lang (← getOr d "width" (.num 0))
      let force ← toFloat lang (← getOr d "force" (.num (Scalar.ofNat 20)))
      let velocity ← toFloat lang (← getOr d "velocity" (.num (Scalar.ofRat (1 / 10))))
      let grasp := (← getOr d "grasp" (.bool false)).truthy
      pure (some { width, force, velocity, grasp })

def floatSix (lang : Language K) (json : Json K) : Except Exc (Wrench K) := do
  sixFrom json (← floatVector lang json)

def boolSix (lang : Language K) (json : Json K) : Except Exc (Fin cartDof → Bool) := do
  sixFrom json (← boolVector lang json)

def poseFrom (json : Json K) (xs : List K) : Except Exc (Pose K) :=
  match xs with
  | [x, y, z, qw, qx, qy, qz] => .ok ⟨⟨x, y, z⟩, ⟨qw, qx, qy, qz⟩⟩
  | _ => .error (untyped "seven entries" json)

def floatPose (lang : Language K) (json : Json K) : Except Exc (Pose K) := do
  poseFrom json (← floatVector lang json)

def stateToDict (s : RobotState K) : Json K :=
  .obj
    [("stamp", .num s.stamp), ("q", floats s.q), ("dq", floats s.dq), ("tau", floats s.tau),
      ("tcp_pose", floats (poseList s.tcpPose)), ("tcp_vel", floats (wrenchList s.tcpVel)),
      ("wrench", floats (wrenchList s.wrench)), ("gripper_width", .num s.gripperWidth),
      ("gripper_force", .num s.gripperForce), ("gripper_is_moving", .bool s.gripperIsMoving),
      ("control_mode", .str s.controlMode.value), ("safety_status", .str s.safetyStatus.value),
      ("stop_reason", .str s.stopReason.value), ("active_owner", .str s.activeOwner),
      ("command_latency_ms", .num s.commandLatencyMs), ("loop_period_ms", .num s.loopPeriodMs),
      ("loop_jitter_us", .num s.loopJitterUs), ("missed_cycles", .int s.missedCycles)]

def stateFromDict (lang : Language K) (d : Json K) : Except Exc (RobotState K) := do
  let stamp ← toFloat lang (← item d "stamp")
  let q ← floatVector lang (← item d "q")
  let dq ← floatVector lang (← item d "dq")
  let tau ← floatVector lang (← item d "tau")
  let tcpPose ← floatPose lang (← item d "tcp_pose")
  let tcpVel ← floatSix lang (← item d "tcp_vel")
  let wrench ← floatSix lang (← item d "wrench")
  let gripperWidth ← toFloat lang (← item d "gripper_width")
  let gripperForce ← toFloat lang (← item d "gripper_force")
  let gripperIsMoving := (← item d "gripper_is_moving").truthy
  let controlMode ← member lang "ControlMode" ControlMode.members ControlMode.value
    (← item d "control_mode")
  let safetyStatus ← member lang "SafetyStatus" SafetyStatus.members SafetyStatus.value
    (← item d "safety_status")
  let stopReason ← member lang "StopReason" StopReason.members StopReason.value
    (← item d "stop_reason")
  let activeOwner ← asText (← getOr d "active_owner" (.str ""))
  let commandLatencyMs ← toFloat lang (← getOr d "command_latency_ms" (.num 0))
  let loopPeriodMs ← toFloat lang (← getOr d "loop_period_ms" (.num 0))
  let loopJitterUs ← toFloat lang (← getOr d "loop_jitter_us" (.num 0))
  let missedCycles ← toInt lang (← getOr d "missed_cycles" (.int 0))
  pure
    { stamp, q, dq, tau, tcpPose, tcpVel, wrench, gripperWidth, gripperForce, gripperIsMoving,
      controlMode, safetyStatus, stopReason, activeOwner, commandLatencyMs, loopPeriodMs,
      loopJitterUs, missedCycles }

/-- A report as it crosses the wire: any text for the stop reason, any JSON for the log. -/
structure WireResult (K : Type) [Scalar K] where
  success : Bool
  clipped : Bool
  stopReason : String
  executedDuration : K
  pathTrackingError : K
  maxTcpSpeed : K
  maxJointSpeed : K
  maxWrench : K
  gripperWidthFinal : K
  finalState : Option (RobotState K)
  log : Json K

def resultToDict (r : WireResult K) : Json K :=
  .obj
    [("success", .bool r.success), ("clipped", .bool r.clipped), ("stop_reason", .str r.stopReason),
      ("executed_duration", .num r.executedDuration),
      ("path_tracking_error", .num r.pathTrackingError), ("max_tcp_speed", .num r.maxTcpSpeed),
      ("max_joint_speed", .num r.maxJointSpeed), ("max_wrench", .num r.maxWrench),
      ("gripper_width_final", .num r.gripperWidthFinal),
      ("final_state", encodeOptional stateToDict r.finalState), ("log", r.log)]

def resultFromDict (lang : Language K) (d : Json K) : Except Exc (WireResult K) := do
  let fs ← getOr d "final_state" .null
  let success := (← item d "success").truthy
  let clipped := (← getOr d "clipped" (.bool false)).truthy
  let stopReason ← asText (← getOr d "stop_reason" (.str "none"))
  let executedDuration ← toFloat lang (← getOr d "executed_duration" (.num 0))
  let pathTrackingError ← toFloat lang (← getOr d "path_tracking_error" (.num 0))
  let maxTcpSpeed ← toFloat lang (← getOr d "max_tcp_speed" (.num 0))
  let maxJointSpeed ← toFloat lang (← getOr d "max_joint_speed" (.num 0))
  let maxWrench ← toFloat lang (← getOr d "max_wrench" (.num 0))
  let gripperWidthFinal ← toFloat lang (← getOr d "gripper_width_final" (.num 0))
  let finalState ← optional (stateFromDict lang) fs
  let log ← getOr d "log" (.obj [])
  pure
    { success, clipped, stopReason, executedDuration, pathTrackingError, maxTcpSpeed,
      maxJointSpeed, maxWrench, gripperWidthFinal, finalState, log }

/-! ### Cartesian chunks -/

def vecList (v : Vec3 K) : List K := [v.x, v.y, v.z]

def quatList (q : Quat K) : List K := [q.w, q.x, q.y, q.z]

def waypointToDict (w : CartesianWaypoint K) : Json K :=
  .obj
    [("position", floats (vecList w.position)),
      ("quaternion", encodeOptional (fun q => floats (quatList q)) w.quaternion),
      ("gripper", gripperToDict w.gripper), ("n_frames", encodeOptional .int w.nFrames),
      ("duration", encodeOptional .num w.duration), ("frame", .str w.frame)]

def waypointFromDict (lang : Language K) (w : Json K) : Except Exc (CartesianWaypoint K) := do
  let position ← floatArray lang (← item w "position")
  let quaternion ← optional (floatArray lang) (← getOr w "quaternion" .null)
  let gripper ← gripperFromDict lang (← getOr w "gripper" .null)
  let nFrames ← optional asInt (← getOr w "n_frames" .null)
  let duration ← optional asFloat (← getOr w "duration" .null)
  let frame ← asText (← getOr w "frame" (.str "base"))
  let position ← reshape3 position
  let quaternion ← quaternion.mapM reshape4
  CartesianWaypoint.create position quaternion gripper nFrames duration frame

def impedanceToDict (imp : ImpedanceParams K) : Json K :=
  .obj
    [("stiffness", floats (wrenchList imp.stiffness)),
      ("damping_ratio", floats (wrenchList imp.dampingRatio))]

def impedanceFromDict (lang : Language K) (imp : Json K) : Except Exc (ImpedanceParams K) :=
  if imp.truthy then do
    let stiffness ← floatSix lang (← item imp "stiffness")
    let dampingRatio ← floatSix lang (← item imp "damping_ratio")
    pure { stiffness, dampingRatio }
  else .ok {}

def forceControlToDict (fc : ForceControlParams K) : Json K :=
  .obj
    [("enabled_axes", flags ((List.finRange cartDof).map fc.enabledAxes)),
      ("target_wrench", floats (wrenchList fc.targetWrench)), ("frame", .str fc.frame)]

def forceControlFromDict (lang : Language K) (fc : Json K) :
    Except Exc (Option (ForceControlParams K)) :=
  if fc.truthy then do
    let enabledAxes ← boolSix lang (← item fc "enabled_axes")
    let targetWrench ← floatSix lang (← item fc "target_wrench")
    let frame ← asText (← getOr fc "frame" (.str "tcp"))
    pure (some { enabledAxes, targetWrench, frame })
  else .ok none

def chunkToDict (c : CartesianChunk K) : Json K :=
  .obj
    [("waypoints", .arr (c.waypoints.map waypointToDict)),
      ("impedance", impedanceToDict c.impedance),
      ("force_control", encodeOptional forceControlToDict c.forceControl),
      ("max_tcp_linear_speed", .num c.maxTcpLinearSpeed),
      ("max_tcp_angular_speed", .num c.maxTcpAngularSpeed),
      ("max_tcp_linear_acc", .num c.maxTcpLinearAcc),
      ("max_tcp_angular_acc", .num c.maxTcpAngularAcc),
      ("max_contact_wrench", encodeOptional (fun w => floats (wrenchList w)) c.maxContactWrench),
      ("contact_wrench_allowance",
        encodeOptional (fun w => floats (wrenchList w)) c.contactWrenchAllowance),
      ("grip_tracking_gate_m", encodeOptional .num c.gripTrackingGateM),
      ("safety_profile", .str c.safetyProfile), ("frame", .str c.frame),
      ("representation", .str c.representation.value),
      ("n_execute", encodeOptional .int c.nExecute)]

def chunkFromDict (lang : Language K) (d : Json K) : Except Exc (CartesianChunk K) := do
  let waypoints ← (← iterate (← item d "waypoints")).mapM (waypointFromDict lang)
  let impedance ← impedanceFromDict lang (← getOr d "impedance" .null)
  let forceControl ← forceControlFromDict lang (← getOr d "force_control" .null)
  let maxTcpLinearSpeed ← toFloat lang
    (← getOr d "max_tcp_linear_speed" (.num (Scalar.ofRat (25 / 100))))
  let maxTcpAngularSpeed ← toFloat lang
    (← getOr d "max_tcp_angular_speed" (.num (Scalar.ofRat (60 / 100))))
  let maxTcpLinearAcc ← toFloat lang (← getOr d "max_tcp_linear_acc" (.num 1))
  let maxTcpAngularAcc ← toFloat lang (← getOr d "max_tcp_angular_acc" (.num (Scalar.ofNat 2)))
  let maxContactWrench ← optional (floatArray lang) (← getOr d "max_contact_wrench" .null)
  let allowance ← optional (floatArray lang) (← getOr d "contact_wrench_allowance" .null)
  let gripTrackingGateM ← optional asFloat (← getOr d "grip_tracking_gate_m" .null)
  let safetyProfile ← asText (← getOr d "safety_profile" (.str ""))
  let frame ← asText (← getOr d "frame" (.str "base"))
  let representation ← member lang "ChunkRepresentation" ChunkRepresentation.members
    ChunkRepresentation.value (← getOr d "representation" (.str "absolute"))
  let nExecute ← optional asInt (← getOr d "n_execute" .null)
  -- the constructor's own conversions and checks
  if nonempty : waypoints ≠ [] then
    let maxContactWrench ← maxContactWrench.mapM reshape6
    let contactWrenchAllowance ← allowance.mapM reshape6
    if allowanceNonneg : ∀ a ∈ contactWrenchAllowance, ∀ axis, ¬ a axis < 0 then
      if gatePositive : ∀ g ∈ gripTrackingGateM, ¬ g ≤ 0 then
        pure
          { waypoints, impedance, forceControl, maxTcpLinearSpeed, maxTcpAngularSpeed,
            maxTcpLinearAcc, maxTcpAngularAcc, maxContactWrench, contactWrenchAllowance,
            gripTrackingGateM, safetyProfile, frame, representation, nExecute, nonempty,
            allowanceNonneg, gatePositive }
      else throw ⟨.valueError, "grip_tracking_gate_m must be positive (or None to disable)"⟩
    else throw ⟨.valueError, "contact_wrench_allowance must be non-negative"⟩
  else throw ⟨.valueError, "CartesianChunk needs at least one waypoint"⟩

/-! ### Joint chunks -/

def jointWaypointToDict (w : JointWaypoint K) : Json K :=
  .obj
    [("positions", floats w.positions), ("n_frames", encodeOptional .int w.nFrames),
      ("duration", encodeOptional .num w.duration)]

def jointWaypointFromDict (lang : Language K) (w : Json K) : Except Exc (JointWaypoint K) := do
  let positions ← floatVector lang (← item w "positions")
  let nFrames ← optional asInt (← getOr w "n_frames" .null)
  let duration ← optional asFloat (← getOr w "duration" .null)
  if timed : nFrames.isSome ∨ duration.isSome then
    pure { positions, nFrames, duration, timed }
  else throw ⟨.valueError, "JointWaypoint needs n_frames or duration"⟩

def jointChunkToDict (c : JointChunk K) : Json K :=
  .obj
    [("waypoints", .arr (c.waypoints.map jointWaypointToDict)),
      ("max_joint_speed_scale", .num c.maxJointSpeedScale),
      ("safety_profile", .str c.safetyProfile)]

def jointChunkFromDict (lang : Language K) (d : Json K) : Except Exc (JointChunk K) := do
  let waypoints ← (← iterate (← item d "waypoints")).mapM (jointWaypointFromDict lang)
  let maxJointSpeedScale ← toFloat lang
    (← getOr d "max_joint_speed_scale" (.num (Scalar.ofRat (3 / 10))))
  let safetyProfile ← asText (← getOr d "safety_profile" (.str ""))
  if nonempty : waypoints ≠ [] then
    pure { waypoints, maxJointSpeedScale, safetyProfile, nonempty }
  else throw ⟨.valueError, "JointChunk needs at least one waypoint"⟩

end Codec

end FlexivControl
