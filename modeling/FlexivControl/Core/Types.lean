/-
Core data types shared across the whole stack: control modes, the robot's state
snapshot, impedance and force-control parameters, gripper commands.
-/

import FlexivControl.Library.Scalar

namespace FlexivControl

abbrev nJointsDefault : Nat := 7

abbrev cartDof : Nat := 6

/-- Control modes, named after the robot's own. -/
inductive ControlMode where
  | idle
  | nrtJointPosition
  | nrtJointImpedance
  | nrtCartesianMotionForce
  | nrtPrimitive
  | rtJointPosition
  | rtJointImpedance
  | rtCartesianMotionForce
  | rtJointTorque
  deriving DecidableEq, Repr

def ControlMode.isCartesian : ControlMode → Bool
  | .nrtCartesianMotionForce | .rtCartesianMotionForce => true
  | _ => false

inductive SafetyStatus where
  | ok
  | clipped
  | holding
  | stopped
  | fault
  deriving DecidableEq, Repr

inductive StopReason where
  | none
  | user
  | staleCommand
  | staleState
  | workspace
  | jointLimit
  | tcpSpeed
  | poseJump
  | contactWrench
  | lease
  | mode
  | backendFault
  deriving DecidableEq, Repr

/-- The exceptions the modelled code distinguishes by class. -/
inductive ExceptionKind where
  | runtimeError
  | valueError
  | notImplementedError
  | leaseError
  | servoLoopActive
  | chunkStoppedError
  | other (name : String)
  deriving DecidableEq, Repr

structure Exc where
  kind : ExceptionKind
  message : String
  deriving DecidableEq, Repr

/-- A six-vector `[fx, fy, fz, tx, ty, tz]`, or one value per Cartesian axis. -/
abbrev Wrench (K : Type) := Fin cartDof → K

/-- A TCP pose `[x, y, z, qw, qx, qy, qz]`. -/
@[ext] structure Pose (K : Type) where
  pos : Vec3 K
  quat : Quat K

variable {K : Type} [Scalar K]

def Pose.identity : Pose K := ⟨0, 1⟩

/-- `np.asarray(v, float).reshape(7)`: refused unless it has seven entries. -/
def Pose.reshape7 : List K → Except Exc (Pose K)
  | [x, y, z, qw, qx, qy, qz] => .ok ⟨⟨x, y, z⟩, ⟨qw, qx, qy, qz⟩⟩
  | _ => .error ⟨.valueError, "cannot reshape array into shape (7,)"⟩

/-- A backend-agnostic snapshot of the robot. -/
structure RobotState (K : Type) [Scalar K] where
  stamp : K
  q : List K := List.replicate nJointsDefault 0
  dq : List K := List.replicate nJointsDefault 0
  tau : List K := List.replicate nJointsDefault 0
  tcpPose : Pose K := Pose.identity
  tcpVel : Wrench K := fun _ => 0
  wrench : Wrench K := fun _ => 0
  gripperWidth : K := 0
  gripperForce : K := 0
  gripperIsMoving : Bool := false
  controlMode : ControlMode := .idle
  safetyStatus : SafetyStatus := .ok
  stopReason : StopReason := .none
  activeOwner : String := ""
  commandLatencyMs : K := 0
  loopPeriodMs : K := 0
  loopJitterUs : K := 0
  missedCycles : Int := 0

structure ImpedanceParams (K : Type) [Scalar K] where
  stiffness : Wrench K := fun axis => if axis.val < 3 then Scalar.ofNat 800 else Scalar.ofNat 40
  dampingRatio : Wrench K := fun _ => Scalar.ofRat (7 / 10)

structure JointImpedanceParams (K : Type) [Scalar K] where
  stiffness : List K := [3000, 3000, 800, 800, 200, 200, 200].map Scalar.ofNat
  dampingRatio : List K := List.replicate nJointsDefault (Scalar.ofRat (7 / 10))

/-- Which Cartesian axes are force-controlled, and the wrench commanded on them. -/
structure ForceControlParams (K : Type) [Scalar K] where
  enabledAxes : Fin cartDof → Bool := fun _ => false
  targetWrench : Wrench K := fun _ => 0
  frame : String := "tcp"

/-- A gripper setpoint. With `grasp` set the hardware closes until contact. -/
structure GripperCommand (K : Type) [Scalar K] where
  width : K := 0
  force : K := Scalar.ofNat 20
  velocity : K := Scalar.ofRat (1 / 10)
  grasp : Bool := false

/-- `np.any(np.abs(wrench) > cap)`. -/
def exceeds (wrench cap : Wrench K) : Bool :=
  (List.finRange cartDof).any fun axis => decide (cap axis < Scalar.abs (wrench axis))

theorem exceeds_real (wrench cap : Wrench ℝ) :
    exceeds wrench cap = true ↔ ∃ axis, cap axis < |wrench axis| := by
  simp only [exceeds, List.any_eq_true, List.mem_finRange, true_and, decide_eq_true_eq,
    Scalar.abs_real]

end FlexivControl
