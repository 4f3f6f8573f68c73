/-
The calls of `RemoteRobot`, as they are sent and as the handlers read them.

The client writes the arguments of a method into the parameters of a request, and the
handler of that name takes them out again, each with defaults and conversions of its own.
What comes out is the call of the robot's method that the same call makes in process.
-/

import FlexivControl.Server.Handlers
import FlexivControl.Wire.RoundTrip

namespace FlexivControl

variable {K : Type} [Scalar K]

section Reading

variable (lang : Language K)

def ownerOf (p : Json K) : Except Exc String := do
  asText (← getOr p "owner" (.str ""))

def flagOf (p : Json K) (name : String) : Except Exc Bool := do
  pure (← getOr p name (.bool false)).truthy

def optionalFloat (p : Json K) (name : String) : Except Exc (Option K) := do
  optional (toFloat lang) (← getOr p name .null)

/-- `None if p.get(name) is None else np.asarray(p[name], float)`. -/
def optionalVector (p : Json K) (name : String) : Except Exc (Option (List K)) := do
  optional (floatVector lang) (← getOr p name .null)

def gripperOf (p : Json K) : Except Exc (Option (GripperCommand K)) := do
  gripperFromDict lang (← getOr p "gripper" .null)

def modeStartOf (p : Json K) : Except Exc (ModeStart K) := do
  let impedance ← if ← contains p "stiffness" then do
      let stiffness ← floatSix lang (← item p "stiffness")
      let dampingRatio ← floatSix lang (← getOr p "damping_ratio"
        (floats (List.replicate cartDof (Scalar.ofRat (7 / 10)))))
      pure (some { stiffness, dampingRatio })
    else pure none
  let nullspaceQ ← optionalVector lang p "nullspace_q"
  pure { impedance, nullspaceQ }

def deltaOf (p : Json K) : Except Exc (DeltaParams K) := do
  let delta ← floatArray lang (← item p "delta")
  let duration ← optional asFloat (← getOr p "duration" .null)
  let frame ← asText (← getOr p "frame" (.str "base"))
  let gripper ← gripperOf lang p
  let delta ← reshape6 delta
  pure
    { translation := ⟨delta 0, delta 1, delta 2⟩, rotation := ⟨delta 3, delta 4, delta 5⟩,
      duration, frame, gripper }

def poseOf (p : Json K) : Except Exc (PoseParams K) := do
  let pose ← floatArray lang (← item p "pose")
  let duration ← toFloat lang (← getOr p "duration" (.num (Scalar.ofRat (2 / 10))))
  let gripper ← gripperOf lang p
  let pose ← Pose.reshape7 pose.flat
  pure { pose, duration, gripper }

def moveOf (p : Json K) : Except Exc (MoveParams K) := do
  let q ← floatVector lang (← item p "q")
  let duration ← optionalFloat lang p "duration"
  let maxJointSpeed ← optionalFloat lang p "max_joint_speed"
  let realtime ← flagOf p "realtime"
  pure { q, duration, maxJointSpeed, realtime }

def commandOf (p : Json K) : Except Exc (GripperCommand K) := do
  let g ← gripperFromDict lang (← item p "gripper")
  pure (g.getD {})

def homeOf (p : Json K) : Except Exc (HomeParams K) := do
  let maxJointSpeed ← optionalFloat lang p "max_joint_speed"
  let duration ← optionalFloat lang p "duration"
  pure { maxJointSpeed, duration }

def goHomeOf (p : Json K) : Except Exc (GoHomeParams K) := do
  let liftM ← toFloat lang (← getOr p "lift_m" (.num (Scalar.ofRat (1 / 10))))
  let openGripperWidth ← optionalFloat lang p "open_gripper_width"
  let maxTcpSpeed ← toFloat lang (← getOr p "max_tcp_speed" (.num (Scalar.ofRat (1 / 10))))
  let maxJointSpeed ← toFloat lang (← getOr p "max_joint_speed" (.num (Scalar.ofRat (3 / 10))))
  pure { liftM, openGripperWidth, maxTcpSpeed, maxJointSpeed }

/-- The handlers of the robot's motion, mode and gripper methods, by name. -/
def motionHandlers : List (String × (Json K → Except Exc (Request K))) :=
  [("start_cartesian_impedance", fun p => do
      pure (.startCartesianImpedance (← ownerOf p) (modeStartOf lang p) (← flagOf p "realtime"))),
    ("start_joint_impedance", fun p => do
      pure (.startJointImpedance (← ownerOf p) (← flagOf p "realtime"))),
    ("servo_cartesian_delta", fun p => do
      pure (.servoCartesianDelta (← ownerOf p) (deltaOf lang p))),
    ("servo_cartesian_pose", fun p => do
      pure (.servoCartesianPose (← ownerOf p) (poseOf lang p))),
    ("execute_cartesian_chunk", fun p => do
      pure (.executeCartesianChunk (← ownerOf p) (item p "chunk" >>= chunkFromDict lang))),
    ("execute_joint_chunk", fun p => do
      pure (.executeJointChunk (← ownerOf p) (item p "chunk" >>= jointChunkFromDict lang))),
    ("move_joint", fun p => do
      pure (.moveJoint (← ownerOf p) (moveOf lang p))),
    ("command_gripper", fun p => do
      pure (.commandGripper (← ownerOf p) (commandOf lang p) (← flagOf p "wait")
        (getOr p "timeout" (.num (Scalar.ofNat 5)) >>= toFloat lang))),
    ("home", fun p => do
      pure (.home (← ownerOf p) (optionalVector lang p "q") (homeOf lang p))),
    ("go_home_safe", fun p => do
      pure (.goHomeSafe (← ownerOf p) (optionalVector lang p "q_home") (goHomeOf lang p))),
    ("zero_ft_sensor", fun p => do pure (.zeroFtSensor (← ownerOf p)))]

end Reading

/-- A motion, mode or gripper call with arguments both classes accept. `none` is an argument
left out, or a null where that is the default. -/
inductive MotionCall (K : Type) [Scalar K] where
  | startCartesianImpedance (realtime : Option Bool) (nullspaceQ : Option (List K))
  | startJointImpedance (realtime : Option Bool)
  | servoCartesianDelta (delta : Wrench K) (duration : Option K) (frame : Option String)
      (gripper : Option (GripperCommand K))
  | servoCartesianPose (pose : Pose K) (duration : Option K) (gripper : Option (GripperCommand K))
  | executeCartesianChunk (chunk : CartesianChunk K) (blocking raiseOnStop : Option Bool)
  | executeJointChunk (chunk : JointChunk K) (raiseOnStop : Option Bool)
  | moveJoint (qTarget : List K) (duration maxJointSpeed : Option K) (realtime : Option Bool)
  | commandGripper (cmd : GripperCommand K) (wait : Option Bool) (timeout : Option K)
  | home (q : Option (List K)) (maxJointSpeed duration : Option K)
  | goHomeSafe (qHome : Option (List K)) (liftM openGripperWidth maxTcpSpeed maxJointSpeed : Option K)
  | zeroFtSensor

namespace MotionCall

def method : MotionCall K → String
  | .startCartesianImpedance .. => "start_cartesian_impedance"
  | .startJointImpedance .. => "start_joint_impedance"
  | .servoCartesianDelta .. => "servo_cartesian_delta"
  | .servoCartesianPose .. => "servo_cartesian_pose"
  | .executeCartesianChunk .. => "execute_cartesian_chunk"
  | .executeJointChunk .. => "execute_joint_chunk"
  | .moveJoint .. => "move_joint"
  | .commandGripper .. => "command_gripper"
  | .home .. => "home"
  | .goHomeSafe .. => "go_home_safe"
  | .zeroFtSensor => "zero_ft_sensor"

/-- What `RemoteRobot` sends for the call, with the defaults of its own signatures. -/
def params (owner : String) : MotionCall K → Json K
  | .startCartesianImpedance realtime nullspaceQ => .obj
      ([("owner", .str owner), ("realtime", .bool (realtime.getD false))] ++
        (match nullspaceQ with
          | none => []
          | some q => [("nullspace_q", floats q)]))
  | .startJointImpedance realtime => .obj
      [("owner", .str owner), ("realtime", .bool (realtime.getD false))]
  | .servoCartesianDelta delta duration frame gripper => .obj
      [("owner", .str owner), ("delta", floats (wrenchList delta)),
        ("duration", encodeOptional .num duration), ("frame", .str (frame.getD "base")),
        ("gripper", gripperToDict gripper)]
  | .servoCartesianPose pose duration gripper => .obj
      [("owner", .str owner), ("pose", floats (poseList pose)),
        ("duration", .num (duration.getD (Scalar.ofRat (2 / 10)))),
        ("gripper", gripperToDict gripper)]
  | .executeCartesianChunk chunk _ _ => .obj
      [("owner", .str owner), ("chunk", chunkToDict chunk)]
  | .executeJointChunk chunk _ => .obj
      [("owner", .str owner), ("chunk", jointChunkToDict chunk)]
  | .moveJoint qTarget duration maxJointSpeed realtime => .obj
      [("owner", .str owner), ("q", floats qTarget), ("duration", encodeOptional .num duration),
        ("max_joint_speed", encodeOptional .num maxJointSpeed),
        ("realtime", .bool (realtime.getD false))]
  | .commandGripper cmd wait timeout => .obj
      [("owner", .str owner), ("gripper", gripperToDict (some cmd)),
        ("wait", .bool (wait.getD false)), ("timeout", .num (timeout.getD (Scalar.ofNat 5)))]
  | .home q maxJointSpeed duration => .obj
      [("owner", .str owner), ("q", encodeOptional floats q),
        ("max_joint_speed", encodeOptional .num maxJointSpeed),
        ("duration", encodeOptional .num duration)]
  | .goHomeSafe qHome liftM openGripperWidth maxTcpSpeed maxJointSpeed => .obj
      [("owner", .str owner), ("q_home", encodeOptional floats qHome),
        ("lift_m", .num (liftM.getD (Scalar.ofRat (1 / 10)))),
        ("open_gripper_width", encodeOptional .num openGripperWidth),
        ("max_tcp_speed", .num (maxTcpSpeed.getD (Scalar.ofRat (1 / 10)))),
        ("max_joint_speed", .num (maxJointSpeed.getD (Scalar.ofRat (3 / 10))))]
  | .zeroFtSensor => .obj [("owner", .str owner)]

/-- What a method returns. -/
def Returns : MotionCall K → Type
  | .startCartesianImpedance .. | .startJointImpedance .. | .home .. | .zeroFtSensor => Unit
  | .commandGripper .. => Option K
  | _ => ExecutionResult K

/-- The same call on a robot in process. -/
def onRobot : (call : MotionCall K) → RobotM K call.Returns
  | .startCartesianImpedance realtime nullspaceQ =>
      FlexivControl.startCartesianImpedance none (realtime.getD false) none nullspaceQ
  | .startJointImpedance realtime => FlexivControl.startJointImpedance none (realtime.getD false)
  | .servoCartesianDelta delta duration frame gripper =>
      FlexivControl.servoCartesianDelta ⟨delta 0, delta 1, delta 2⟩ ⟨delta 3, delta 4, delta 5⟩
        duration (frame.getD "base") gripper
  | .servoCartesianPose pose duration gripper =>
      FlexivControl.servoCartesianPose pose (duration.getD (Scalar.ofRat (2 / 10))) gripper
  | .executeCartesianChunk chunk _ raiseOnStop =>
      FlexivControl.executeCartesianChunk chunk (raiseOnStop.getD false)
  | .executeJointChunk chunk raiseOnStop =>
      FlexivControl.executeJointChunk chunk (raiseOnStop.getD false)
  | .moveJoint qTarget duration maxJointSpeed realtime =>
      FlexivControl.moveJoint qTarget duration maxJointSpeed (realtime.getD false)
  | .commandGripper cmd wait timeout =>
      FlexivControl.commandGripper cmd (wait.getD false) (timeout.getD (Scalar.ofNat 5))
  | .home q maxJointSpeed duration => FlexivControl.home q maxJointSpeed duration
  | .goHomeSafe qHome liftM openGripperWidth maxTcpSpeed maxJointSpeed =>
      FlexivControl.goHomeSafe qHome (liftM.getD (Scalar.ofRat (1 / 10))) openGripperWidth
        (maxTcpSpeed.getD (Scalar.ofRat (1 / 10))) (maxJointSpeed.getD (Scalar.ofRat (3 / 10)))
  | .zeroFtSensor => FlexivControl.zeroFtSensor

/-- The reply that carries what the method returned. -/
def reply : (call : MotionCall K) → call.Returns → Reply K
  | .startCartesianImpedance .., _ | .startJointImpedance .., _ => .started
  | .home .., _ | .zeroFtSensor, _ => .ok
  | .commandGripper .., width => .finalWidth width
  | .servoCartesianDelta .., r | .servoCartesianPose .., r | .executeCartesianChunk .., r
  | .executeJointChunk .., r | .moveJoint .., r | .goHomeSafe .., r => .result r

/-- The call without what the client does itself: raising when the result is a stop. -/
def quiet : MotionCall K → MotionCall K
  | .executeCartesianChunk chunk blocking _ => .executeCartesianChunk chunk blocking none
  | .executeJointChunk chunk _ => .executeJointChunk chunk none
  | call => call

def Constructed : MotionCall ℝ → Prop
  | .executeCartesianChunk chunk _ _ => chunk.Constructed
  | _ => True

end MotionCall

/-- A method of the robot run by a handler: under the lease and the robot lock. -/
def underLease {α : Type} (owner : String) (method : RobotM K α) (reply : α → Reply K) :
    RobotM K (Reply K) := do
  requireLease owner
  let r ← motionLock owner method
  pure (reply r)

/-- What `RemoteRobot` does with a result when asked to raise. -/
def raiseStopped (raiseOnStop : Bool) (result : ExecutionResult K) :
    RobotM K (ExecutionResult K) :=
  if raiseOnStop ∧ ¬ result.success then throw ⟨.chunkStoppedError, "chunk stopped"⟩
  else pure result

theorem returnResult_raises (result : ExecutionResult K) :
    returnResult result true = returnResult result false >>= raiseStopped true := by
  unfold returnResult raiseStopped
  simp

theorem abortAtEntry_raises :
    abortAtEntry (K := K) true = abortAtEntry false >>= raiseStopped true := by
  simp only [abortAtEntry, bind_assoc, returnResult_raises]

theorem runCartesianChunk_raises (chunk : CartesianChunk K) (record : Bool) :
    runCartesianChunk chunk true record =
      runCartesianChunk chunk false record >>= raiseStopped true := by
  simp only [runCartesianChunk, bind_assoc, returnResult_raises]

theorem runJointChunk_raises (chunk : JointChunk K) :
    runJointChunk chunk true = runJointChunk chunk false >>= raiseStopped true := by
  simp only [runJointChunk, bind_assoc, returnResult_raises]

theorem bind_raiseStopped_false (run : RobotM K (ExecutionResult K)) :
    run >>= raiseStopped false = run := by
  have quiet : (raiseStopped false : ExecutionResult K → RobotM K (ExecutionResult K)) = pure := by
    funext result
    rfl
  rw [quiet, bind_pure]

theorem executeCartesianChunk_raises (chunk : CartesianChunk K) (raiseOnStop : Bool) :
    executeCartesianChunk chunk raiseOnStop =
      executeCartesianChunk chunk >>= raiseStopped raiseOnStop := by
  cases raiseOnStop with
  | false => exact (bind_raiseStopped_false (executeCartesianChunk chunk)).symm
  | true =>
      unfold executeCartesianChunk
      rw [bind_assoc]
      apply bind_congr
      intro _
      rw [bind_assoc]
      apply bind_congr
      intro pending
      cases pending with
      | false => exact runCartesianChunk_raises chunk false
      | true => exact abortAtEntry_raises

theorem executeJointChunk_raises (chunk : JointChunk K) (raiseOnStop : Bool) :
    executeJointChunk chunk raiseOnStop =
      executeJointChunk chunk >>= raiseStopped raiseOnStop := by
  cases raiseOnStop with
  | false => exact (bind_raiseStopped_false (executeJointChunk chunk)).symm
  | true =>
      unfold executeJointChunk
      rw [bind_assoc]
      apply bind_congr
      intro _
      rw [bind_assoc]
      apply bind_congr
      intro pending
      cases pending with
      | false => exact runJointChunk_raises chunk
      | true => exact abortAtEntry_raises

section Parts

variable (lang : Language K)

@[simp] theorem optional_toFloat (o : Option K) :
    optional (toFloat lang) (encodeOptional .num o) = .ok o := by
  cases o with
  | none => rfl
  | some x => rfl

@[simp] theorem optional_floatVector (o : Option (List K)) :
    optional (floatVector lang) (encodeOptional floats o) = .ok o := by
  apply optional_encode
  · intro xs impossible
    cases impossible
  · exact floatVector_floats lang

theorem deltaOf_params (owner : String) (delta : Wrench K) (duration : Option K)
    (frame : Option String) (gripper : Option (GripperCommand K)) :
    deltaOf lang ((MotionCall.servoCartesianDelta delta duration frame gripper).params owner) =
      .ok ⟨⟨delta 0, delta 1, delta 2⟩, ⟨delta 3, delta 4, delta 5⟩, duration, frame.getD "base",
        gripper⟩ := by
  have entries := reshape6_wrenchList delta
  simp [deltaOf, gripperOf, MotionCall.params, entries]

theorem poseOf_params (owner : String) (pose : Pose K) (duration : Option K)
    (gripper : Option (GripperCommand K)) :
    poseOf lang ((MotionCall.servoCartesianPose pose duration gripper).params owner) =
      .ok ⟨pose, duration.getD (Scalar.ofRat (2 / 10)), gripper⟩ := by
  simp [poseOf, gripperOf, MotionCall.params, NdArray.flat_vector, poseList, Pose.reshape7]

theorem modeStartOf_params (owner : String) (realtime : Option Bool)
    (nullspaceQ : Option (List K)) :
    modeStartOf lang ((MotionCall.startCartesianImpedance realtime nullspaceQ).params owner) =
      .ok ⟨none, nullspaceQ⟩ := by
  cases nullspaceQ with
  | none =>
      simp [modeStartOf, optionalVector, MotionCall.params, contains]
  | some q =>
      have given := optional_floatVector lang (some q)
      rw [encodeOptional] at given
      simp [modeStartOf, optionalVector, MotionCall.params, contains, given]

end Parts

section Arriving

variable (lang : Language ℝ) (owner : String)

theorem remote_call_served (call : MotionCall ℝ) (made : call.Constructed) :
    ∃ read request, (motionHandlers lang).lookup call.method = some read ∧
      read (call.params owner) = .ok request ∧
      handle request = underLease owner call.quiet.onRobot call.quiet.reply := by
  cases call with
  | startCartesianImpedance realtime nullspaceQ =>
      refine ⟨_, .startCartesianImpedance owner (.ok ⟨none, nullspaceQ⟩) (realtime.getD false),
        rfl, ?_, rfl⟩
      rw [modeStartOf_params]
      simp [MotionCall.params, ownerOf, flagOf]
  | startJointImpedance realtime =>
      refine ⟨_, .startJointImpedance owner (realtime.getD false), rfl, ?_, rfl⟩
      simp [MotionCall.params, ownerOf, flagOf]
  | servoCartesianDelta delta duration frame gripper =>
      refine ⟨_, .servoCartesianDelta owner (.ok ⟨⟨delta 0, delta 1, delta 2⟩,
        ⟨delta 3, delta 4, delta 5⟩, duration, frame.getD "base", gripper⟩), rfl, ?_, rfl⟩
      rw [deltaOf_params]
      simp [MotionCall.params, ownerOf]
  | servoCartesianPose pose duration gripper =>
      refine ⟨_, .servoCartesianPose owner
        (.ok ⟨pose, duration.getD (Scalar.ofRat (2 / 10)), gripper⟩), rfl, ?_, rfl⟩
      rw [poseOf_params]
      simp [MotionCall.params, ownerOf]
  | executeCartesianChunk chunk blocking raiseOnStop =>
      refine ⟨_, .executeCartesianChunk owner (.ok chunk), rfl, ?_, rfl⟩
      have back := chunk_round_trip lang made
      simp [MotionCall.params, ownerOf, back]
  | executeJointChunk chunk raiseOnStop =>
      refine ⟨_, .executeJointChunk owner (.ok chunk), rfl, ?_, rfl⟩
      have back := jointChunk_round_trip lang chunk
      simp [MotionCall.params, ownerOf, back]
  | moveJoint qTarget duration maxJointSpeed realtime =>
      refine ⟨_, .moveJoint owner (.ok ⟨qTarget, duration, maxJointSpeed, realtime.getD false⟩),
        rfl, ?_, rfl⟩
      simp [MotionCall.params, ownerOf, moveOf, optionalFloat, flagOf]
  | commandGripper cmd wait timeout =>
      refine ⟨_, .commandGripper owner (.ok cmd) (wait.getD false)
        (.ok (timeout.getD (Scalar.ofNat 5))), rfl, ?_, rfl⟩
      simp [MotionCall.params, ownerOf, commandOf, flagOf]
  | home q maxJointSpeed duration =>
      refine ⟨_, .home owner (.ok q) (.ok ⟨maxJointSpeed, duration⟩), rfl, ?_, rfl⟩
      simp [MotionCall.params, ownerOf, optionalVector, homeOf, optionalFloat]
  | goHomeSafe qHome liftM openGripperWidth maxTcpSpeed maxJointSpeed =>
      refine ⟨_, .goHomeSafe owner (.ok qHome) (.ok ⟨liftM.getD (Scalar.ofRat (1 / 10)),
        openGripperWidth, maxTcpSpeed.getD (Scalar.ofRat (1 / 10)),
        maxJointSpeed.getD (Scalar.ofRat (3 / 10))⟩), rfl, ?_, rfl⟩
      simp [MotionCall.params, ownerOf, optionalVector, goHomeOf, optionalFloat]
  | zeroFtSensor =>
      refine ⟨_, .zeroFtSensor owner, rfl, ?_, rfl⟩
      simp [MotionCall.params, ownerOf]

/-- What `quiet` takes from a call the client does with the result; it takes nothing else. -/
def MotionCall.ClientRaises : MotionCall K → Prop
  | .executeCartesianChunk chunk blocking raiseOnStop =>
      (MotionCall.executeCartesianChunk chunk blocking raiseOnStop).onRobot =
        (MotionCall.executeCartesianChunk chunk blocking none).onRobot >>=
          raiseStopped (raiseOnStop.getD false)
  | .executeJointChunk chunk raiseOnStop =>
      (MotionCall.executeJointChunk chunk raiseOnStop).onRobot =
        (MotionCall.executeJointChunk chunk none).onRobot >>=
          raiseStopped (raiseOnStop.getD false)
  | call => call.quiet = call

theorem clientRaises (call : MotionCall K) : call.ClientRaises := by
  cases call with
  | executeCartesianChunk chunk blocking raiseOnStop =>
      exact executeCartesianChunk_raises chunk (raiseOnStop.getD false)
  | executeJointChunk chunk raiseOnStop =>
      exact executeJointChunk_raises chunk (raiseOnStop.getD false)
  | _ => rfl

/-- The handler of a call's name runs, under the lease and the lock, the robot's method with
the arguments of the same call in process. -/
theorem remote_call_means_local_call (call : MotionCall ℝ) (made : call.Constructed) :
    (∃ read request, (motionHandlers lang).lookup call.method = some read ∧
      read (call.params owner) = .ok request ∧
      handle request = underLease owner call.quiet.onRobot call.quiet.reply) ∧
      call.ClientRaises :=
  ⟨remote_call_served lang owner call made, clientRaises call⟩

noncomputable def turnedCall : MotionCall ℝ :=
  .executeCartesianChunk turnedChunk (some false) (some true)

theorem remote_call_means_local_call_turned : turnedCall.Constructed ∧
    ∃ read request, (motionHandlers plainLanguage).lookup turnedCall.method = some read ∧
      read (turnedCall.params "teleop") = .ok request ∧
      handle request = underLease "teleop" turnedCall.quiet.onRobot turnedCall.quiet.reply :=
  ⟨turnedChunk_constructed,
    (remote_call_means_local_call plainLanguage "teleop" turnedCall turnedChunk_constructed).1⟩

end Arriving

end FlexivControl
