/-
What the threads of one server process share, and every operation on it: the
backend, the cancel flag, the clocks, the lease, the lock around the robot and
the slot of the servo loop.
-/

import FlexivControl.Core.Interpolation
import FlexivControl.Library.Program

namespace FlexivControl

/-- The keyword arguments of `set_mode`. -/
structure ModeParams (K : Type) [Scalar K] where
  impedance : Option (ImpedanceParams K) := none
  jointImpedance : Option (JointImpedanceParams K) := none
  forceControl : Option (ForceControlParams K) := none
  nullspaceQ : Option (List K) := none
  maxContactWrench : Option (Wrench K) := none

/-- A call that commands the backend. -/
inductive BackendCall (K : Type) [Scalar K] where
  | setMode (mode : ControlMode) (params : ModeParams K)
  | streamCartesian (pose : Pose K) (wrench : Option (Wrench K))
  | streamJoint (q : List K)
  | moveGripper (cmd : GripperCommand K)
  | stop
  | setContactWrenchLimit (wrench : Wrench K)
  | home (qHome : List K)
  | zeroFtSensor

inductive Setpoint (K : Type) [Scalar K] where
  | cartesian (pose : Pose K)
  | joint (q : List K)

/-- The setpoint a backend call hands to the arm. -/
def BackendCall.setpoint {K : Type} [Scalar K] : BackendCall K → Option (Setpoint K)
  | .streamCartesian pose _ => some (.cartesian pose)
  | .streamJoint q => some (.joint q)
  | _ => none

structure RobotConfig (K : Type) [Scalar K] where
  controlHz : K := Scalar.ofNat 100
  qHome : List K :=
    [0, -7 / 10, 0, 16 / 10, 0, 9 / 10, 0].map Scalar.ofRat
  gripperHomeWidth : Option K := none

/-- The fields guarded by the robot lock. -/
structure Robot (K : Type) [Scalar K] where
  cfg : RobotConfig K
  controlHz : K
  dt : K
  profile : SafetyProfile K
  filter : SafetyFilter K

variable {K : Type} [Scalar K]

/-- A rate of zero counts as not given. -/
def Robot.init (cfg : RobotConfig K) (profile : SafetyProfile K) (controlHz : Option K := none) :
    Robot K :=
  let hz := match controlHz with
    | none => cfg.controlHz
    | some hz => if 0 < hz ∨ hz < 0 then hz else cfg.controlHz
  { cfg := cfg, controlHz := hz, dt := 1 / hz, profile := profile,
    filter := SafetyFilter.init profile (1 / hz) }

inductive CancelSite where
  | entry
  | tick
  | gripperWait
  | guard
  | guardReason
  deriving DecidableEq, Repr

/-- The two kinds of target a client publishes to the servo loop. -/
inductive ServoTarget (K : Type) [Scalar K] where
  | cartesian (pose : List K) (gripper : Option (GripperCommand K))
  | joint (q : List K)

inductive Op (K : Type) [Scalar K] where
  | readState
  | inFault
  | write (call : BackendCall K)
  | cancelIsSet (site : CancelSite)
  | cancelClear
  | cancelSet
  | wallClock
  | perfCounter
  | publishState (state : RobotState K)
  | peekState
  | facadeOwner
  | setFacadeOwner (owner : String)
  | activeProfile
  | loadSafetyProfile (name : String)
  /-- A chunk returns its report. This does nothing; it marks the place in a trace. -/
  | chunkReturns (success : Bool) (stopReason : StopReason)
  | leaseOwner
  | leaseAcquire (owner : String) (force : Bool)
  | leaseHeartbeat (owner : String)
  | leaseRelease (owner : String)
  | leaseCheck (owner : String)
  | holdEnter (owner : String)
  | holdExit (owner : String)
  | lockAcquire
  | lockTryAcquire
  | lockRelease (robot : Robot K)
  | setSafetyProfile (profile : SafetyProfile K)
  | loopSlot
  | loopTake
  | loopInstall (controlHz : Option K)
  | loopAlive (loop : Nat)
  | loopState (loop : Nat)
  | loopJoin (loop : Nat)
  | loopPublish (loop : Nat) (target : ServoTarget K)

abbrev Op.Resp : Op K → Type
  | .readState => Except Exc (RobotState K)
  | .inFault => Except Exc Bool
  | .write _ => Except Exc Unit
  | .cancelIsSet _ => Bool
  | .wallClock => K
  | .perfCounter => K
  | .peekState => Option (RobotState K)
  | .facadeOwner => Option String
  | .activeProfile => SafetyProfile K
  | .loadSafetyProfile _ => Except Exc (SafetyProfile K)
  | .leaseOwner => String
  | .leaseAcquire _ _ => Except Exc (String × K)
  | .leaseHeartbeat _ => Except Exc K
  | .leaseRelease _ => Except Exc Unit
  | .leaseCheck _ => Except Exc Unit
  | .holdEnter _ => Except Exc Unit
  | .lockAcquire => Robot K
  | .lockTryAcquire => Option (Robot K)
  | .loopSlot => Option Nat
  | .loopTake => Option Nat
  | .loopInstall _ => Nat
  | .loopAlive _ => Bool
  | .loopState _ => Except Exc (RobotState K)
  | .loopPublish _ _ => Except Exc Unit
  | _ => Unit

abbrev effects (K : Type) [Scalar K] : Signature where
  Op := Op K
  Resp := Op.Resp

abbrev RobotM (K : Type) [Scalar K] (α : Type) := Script (effects K) (Robot K) Exc α

def perform (op : Op K) : RobotM K (Op.Resp op) := Script.perform (S := effects K) op

def cancelIsSet (site : CancelSite) : RobotM K Bool := perform (.cancelIsSet site)

def wallClock : RobotM K K := perform .wallClock

def perfCounter : RobotM K K := perform .perfCounter

def attempt {α : Type} (result : Except Exc α) : RobotM K α :=
  match result with
  | .ok a => pure a
  | .error e => throw e

def backend (call : BackendCall K) : RobotM K Unit := do
  attempt (← perform (.write call))

end FlexivControl
