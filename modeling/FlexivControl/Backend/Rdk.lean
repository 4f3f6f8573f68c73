/-
The backend of the real robot, as calls on the vendor's interface.

The vendor's own code is not modelled: a command returns or raises, and a query answers
with anything. `rdkRobot` keeps what a trace says about the robot: the mode it has been
switched to, the commands that took effect and whether one was refused.
-/

import FlexivControl.Core.Effects
import FlexivControl.Library.Monitor

namespace FlexivControl

variable {K : Type} [Scalar K]

def ControlMode.isRealtime : ControlMode → Bool
  | .rtJointPosition | .rtJointImpedance | .rtCartesianMotionForce | .rtJointTorque => true
  | _ => false

inductive CoordType where
  | world
  | tcp
  deriving DecidableEq, Repr

inductive RdkCommand (K : Type) where
  | switchMode (mode : ControlMode)
  | setCartesianImpedance (stiffness dampingRatio : Wrench K)
  | setJointImpedance (stiffness dampingRatio : List K)
  | setMaxContactWrench (wrench : Wrench K)
  | setForceControlAxis (axes : Fin cartDof → Bool)
  | setForceControlFrame (frame : CoordType)
  | setNullSpacePosture (q : List K)
  | streamCartesianMotionForce (pose : Pose K) (wrench : Wrench K)
  | sendCartesianMotionForce (pose : Pose K) (wrench : Wrench K)
  | executePrimitive (name : String)
  | stop

structure RdkStates (K : Type) where
  q : List K
  dq : List K
  tau : List K
  tcpPose : Pose K
  tcpVel : Wrench K
  wrench : Wrench K

inductive RdkOp (K : Type) where
  | command (command : RdkCommand K)
  | mode
  | states
  | fault
  | busy
  /-- Whether the primitive's state says that the target is reached, if it has that key. -/
  | primitiveReached
  | time

abbrev RdkOp.Resp : RdkOp K → Type
  | .command _ => Except Exc Unit
  | .mode => Except Exc ControlMode
  | .states => Except Exc (RdkStates K)
  | .fault => Except Exc Bool
  | .busy => Except Exc Bool
  | .primitiveReached => Except Exc (Option Bool)
  | .time => K

abbrev rdkEffects (K : Type) [Scalar K] : Signature where
  Op := RdkOp K
  Resp := RdkOp.Resp

/-- The fields of the backend; `exposes` is what the installed build's `Mode` has. -/
structure FlexivRdkBackend (K : Type) [Scalar K] where
  exposes : ControlMode → Bool := fun _ => true
  allowTorque : Bool := false
  mode : ControlMode := .idle
  forceControl : Option (ForceControlParams K) := none

abbrev RdkM (K : Type) [Scalar K] (α : Type) := Script (rdkEffects K) (FlexivRdkBackend K) Exc α

namespace Rdk

def ask (op : RdkOp K) : RdkM K (RdkOp.Resp op) := Script.perform (S := rdkEffects K) op

def answer {α : Type} (result : Except Exc α) : RdkM K α :=
  match result with
  | .ok a => pure a
  | .error e => throw e

def command (c : RdkCommand K) : RdkM K Unit := do
  answer (← ask (.command c))

def rdkName : ControlMode → String
  | .idle => "IDLE"
  | .nrtJointPosition => "NRT_JOINT_POSITION"
  | .nrtJointImpedance => "NRT_JOINT_IMPEDANCE"
  | .nrtCartesianMotionForce => "NRT_CARTESIAN_MOTION_FORCE"
  | .nrtPrimitive => "NRT_PRIMITIVE_EXECUTION"
  | .rtJointPosition => "RT_JOINT_POSITION"
  | .rtJointImpedance => "RT_JOINT_IMPEDANCE"
  | .rtCartesianMotionForce => "RT_CARTESIAN_MOTION_FORCE"
  | .rtJointTorque => "RT_JOINT_TORQUE"

def rdkMode (backend : FlexivRdkBackend K) (mode : ControlMode) : Except Exc ControlMode :=
  if backend.exposes mode then .ok mode
  else .error ⟨.runtimeError, "flexivrdk.Mode." ++ rdkName mode ++
    ", which this flexivrdk build does not expose"⟩

def rdkCoord (frame : String) : CoordType :=
  if frame.toLower ∈ ["tcp", "flange", "ee"] then .tcp else .world

end Rdk

namespace FlexivRdkBackend

open Rdk

/-- The remembered mode, unless the robot says that it is idle. -/
def syncedMode (backend : FlexivRdkBackend K) (robotMode : Except Exc ControlMode) :
    ControlMode :=
  if backend.mode = .idle then .idle
  else
    match robotMode, rdkMode backend .idle with
    | .ok robotMode, .ok idleMode => if robotMode = idleMode then .idle else backend.mode
    | _, _ => backend.mode

def inFault : RdkM K Bool := do
  match ← ask .fault with
  | .ok fault => pure fault
  | .error _ => pure false

def snapshot : RdkM K (RobotState K) := do
  let s ← answer (← ask .states)
  let faulted ← inFault
  let stamp ← ask .time
  let mode := (← get).mode
  pure
    { stamp := stamp, q := s.q, dq := s.dq, tau := s.tau, tcpPose := s.tcpPose
      tcpVel := s.tcpVel, wrench := s.wrench, controlMode := mode
      safetyStatus := if faulted then .fault else .ok
      stopReason := if faulted then .backendFault else .none }

def readState : RdkM K (RobotState K) := do
  if (← get).mode ≠ .idle then
    let robotMode ← ask .mode
    modify fun backend => { backend with mode := backend.syncedMode robotMode }
  snapshot

def whenGiven {α : Type} (param : Option α) (send : α → RdkM K Unit) : RdkM K Unit :=
  match param with
  | none => pure ()
  | some a => send a

def startForceControl (forceControl : ForceControlParams K) : RdkM K Unit := do
  modify fun backend => { backend with forceControl := some forceControl }
  command (.setForceControlAxis forceControl.enabledAxes)
  command (.setForceControlFrame (rdkCoord forceControl.frame))

/-- The mode is recorded as soon as the switch has returned; force control is forgotten
only by a mode that is not Cartesian. -/
def setMode (mode : ControlMode) (params : ModeParams K) : RdkM K Unit := do
  let backend ← get
  if mode = .rtJointTorque ∧ backend.allowTorque = false then
    throw ⟨.runtimeError, "RT_JOINT_TORQUE is gated off. Construct FlexivRdkBackend(..., "
      ++ "allow_torque=True) to enable direct joint-torque control (expert/research mode)."⟩
  command (.switchMode (← answer (rdkMode backend mode)))
  modify fun backend => { backend with mode := mode }
  if mode.isCartesian then
    whenGiven params.impedance fun impedance =>
      command (.setCartesianImpedance impedance.stiffness impedance.dampingRatio)
    whenGiven params.maxContactWrench fun wrench => command (.setMaxContactWrench wrench)
    whenGiven params.forceControl startForceControl
    whenGiven params.nullspaceQ fun q => command (.setNullSpacePosture q)
  else
    whenGiven params.jointImpedance fun impedance =>
      command (.setJointImpedance impedance.stiffness impedance.dampingRatio)
    modify fun backend => { backend with forceControl := none }

def setContactWrenchLimit (wrench : Wrench K) : RdkM K Unit := do
  if (← get).mode.isCartesian then command (.setMaxContactWrench wrench)

/-- An explicit wrench, else the one force control was last started with, else zero. -/
def commandedWrench (backend : FlexivRdkBackend K) (wrench : Option (Wrench K)) : Wrench K :=
  match wrench with
  | some wrench => wrench
  | none =>
      match backend.forceControl with
      | some forceControl => forceControl.targetWrench
      | none => fun _ => 0

def streamCartesian (pose : Pose K) (wrench : Option (Wrench K)) : RdkM K Unit := do
  let backend ← get
  if backend.mode.isRealtime then
    command (.streamCartesianMotionForce pose (backend.commandedWrench wrench))
  else command (.sendCartesianMotionForce pose (backend.commandedWrench wrench))

def stop : RdkM K Unit := do
  command .stop
  modify fun backend => { backend with mode := .idle }

def primitiveRunning : RdkM K Bool := do
  match ← ask .primitiveReached with
  | .ok (some reached) => pure !reached
  | _ =>
      match ← ask .busy with
      | .ok busy => pure busy
      | .error _ => pure false

def awaitPrimitive (t0 : K) : Nat → RdkM K Unit
  | 0 => pure ()
  | rounds + 1 => do
      if (← ask .time) - t0 < Scalar.ofNat 30 then
        if ← primitiveRunning then awaitPrimitive t0 rounds

def home (qHome : Option (List K)) : RdkM K Unit := do
  if qHome.isSome then
    throw ⟨.notImplementedError, "the RDK 'Home' primitive ignores a configured q_home; "
      ++ "Robot.home falls back to an interpolated joint move"⟩
  command (.switchMode (← answer (rdkMode (← get) .nrtPrimitive)))
  command (.executePrimitive "Home")
  let t0 ← ask .time
  awaitPrimitive t0 601
  modify fun backend => { backend with mode := .nrtPrimitive }

def awaitIdle (t0 : K) : Nat → RdkM K Unit
  | 0 => pure ()
  | rounds + 1 => do
      if ← answer (← ask .busy) then
        if (← ask .time) - t0 < Scalar.ofNat 10 then awaitIdle t0 rounds

def zeroFtSensor : RdkM K Unit := do
  if (← get).exposes .nrtPrimitive then
    command (.switchMode .nrtPrimitive)
    command (.executePrimitive "ZeroFTSensor")
    let t0 ← ask .time
    awaitIdle t0 51
    command (.switchMode .idle)
    modify fun backend => { backend with mode := .idle }

end FlexivRdkBackend

end FlexivControl
