/-
The control server's handlers, one program for each RPC.

A handler that works on the robot loads the robot's fields when it takes the robot
lock and leaves them behind when it gives the lock back. What the wire's values are
parsed to is part of the request: the values, or the exception the parser raises.
-/

import FlexivControl.Robot.Facade

namespace FlexivControl

variable {K : Type} [Scalar K]

structure DeltaParams (K : Type) [Scalar K] where
  translation : Vec3 K
  rotation : Vec3 K
  duration : Option K
  frame : String
  gripper : Option (GripperCommand K)

structure PoseParams (K : Type) [Scalar K] where
  pose : Pose K
  duration : K
  gripper : Option (GripperCommand K)

structure MoveParams (K : Type) where
  q : List K
  duration : Option K
  maxJointSpeed : Option K
  realtime : Bool

structure HomeParams (K : Type) where
  maxJointSpeed : Option K
  duration : Option K

structure GoHomeParams (K : Type) where
  liftM : K
  openGripperWidth : Option K
  maxTcpSpeed : K
  maxJointSpeed : K

structure ModeStart (K : Type) [Scalar K] where
  impedance : Option (ImpedanceParams K)
  nullspaceQ : Option (List K)

inductive Request (K : Type) [Scalar K] where
  | ping
  | acquireLease (owner : String) (force : Bool)
  | releaseLease (owner : String)
  | heartbeat (owner : String)
  | getLease
  | setSafetyProfile (owner : String) (name : Except Exc String)
  | getSafetyProfile
  | getState
  | startCartesianImpedance (owner : String) (params : Except Exc (ModeStart K)) (realtime : Bool)
  | startJointImpedance (owner : String) (realtime : Bool)
  | servoCartesianDelta (owner : String) (params : Except Exc (DeltaParams K))
  | servoCartesianPose (owner : String) (params : Except Exc (PoseParams K))
  | executeCartesianChunk (owner : String) (chunk : Except Exc (CartesianChunk K))
  | executeJointChunk (owner : String) (chunk : Except Exc (JointChunk K))
  | moveJoint (owner : String) (params : Except Exc (MoveParams K))
  | commandGripper (owner : String) (cmd : Except Exc (GripperCommand K)) (wait : Bool)
      (timeout : Except Exc K)
  | home (owner : String) (q : Except Exc (Option (List K))) (params : Except Exc (HomeParams K))
  | goHomeSafe (owner : String) (q : Except Exc (Option (List K)))
      (params : Except Exc (GoHomeParams K))
  | zeroFtSensor (owner : String)
  | stop
  | startServoLoop (owner : String) (controlHz : Option K)
  | servoStream (owner : String) (target : Except Exc (List K × Option (GripperCommand K)))
  | servoStreamJoint (owner : String) (q : Except Exc (List K))
  | stopServoLoop (owner : String)

/-- Whom the request is made for. -/
def Request.owner : Request K → Option String
  | .acquireLease owner _ | .releaseLease owner | .heartbeat owner | .setSafetyProfile owner _
  | .startCartesianImpedance owner _ _ | .startJointImpedance owner _
  | .servoCartesianDelta owner _ | .servoCartesianPose owner _ | .executeCartesianChunk owner _
  | .executeJointChunk owner _ | .moveJoint owner _ | .commandGripper owner _ _ _
  | .home owner _ _ | .goHomeSafe owner _ _ | .zeroFtSensor owner | .startServoLoop owner _
  | .servoStream owner _ | .servoStreamJoint owner _ | .stopServoLoop owner => some owner
  | .ping | .getLease | .getSafetyProfile | .getState | .stop => none

inductive Reply (K : Type) [Scalar K] where
  | pong
  | leased (owner : String) (expiresAt : K)
  | released
  | refreshed (expiresAt : K)
  | leaseOwner (owner : String)
  | profile (name : String)
  | profileConfig (profile : SafetyProfile K)
  | state (state : RobotState K)
  | started
  | result (result : ExecutionResult K)
  | finalWidth (width : Option K)
  | ok
  | stopped

/-! ### The lease and the robot lock -/

/-- Any authenticated request is liveness, and the facade's own check follows the owner. -/
def requireLease (owner : String) : RobotM K Unit := do
  attempt (← perform (.leaseCheck owner))
  let _ ← attempt (← perform (.leaseHeartbeat owner))
  perform (.setFacadeOwner owner)

def releaseRobotLock : RobotM K Unit := do
  perform (.lockRelease (← get))

def withRobotLock {α : Type} (body : RobotM K α) : RobotM K α := do
  set (← perform .lockAcquire)
  Script.ensuring body releaseRobotLock

def servoLoopActive : Exc :=
  ⟨.servoLoopActive, "servo loop active (single-writer streaming); call stop_servo_loop before " ++
    "blocking motion commands"⟩

def holdLease {α : Type} (owner : String) (body : RobotM K α) : RobotM K α :=
  if owner = "" then body
  else do
    attempt (← perform (.holdEnter owner))
    Script.ensuring body (perform (.holdExit owner))

/-- The lock of a blocking operation, refused while the servo loop owns the backend. -/
def motionLock {α : Type} (owner : String) (body : RobotM K α) : RobotM K α :=
  withRobotLock do
    match ← perform .loopSlot with
    | some _ => throw servoLoopActive
    | none => holdLease owner body

/-- A displaced owner's motion is cancelled; a fresh owner does not inherit a cancel. -/
def settleCancel (force : Bool) (prev owner : String) : RobotM K Unit :=
  if force ∧ prev ≠ "" ∧ prev ≠ owner then requestStop
  else if prev ≠ owner then clearStop
  else pure ()

def hAcquireLease (owner : String) (force : Bool) : RobotM K (Reply K) := do
  let prev ← perform .leaseOwner
  let (owner, expiresAt) ← attempt (← perform (.leaseAcquire owner force))
  settleCancel force prev owner
  pure (.leased owner expiresAt)

/-- `loop.stop()`: join the thread, then stop the backend under the lock. -/
def stopLoop (loop : Nat) : RobotM K Unit := do
  perform (.loopJoin loop)
  withRobotLock (backend .stop)

def stopTaken (taken : Option Nat) : RobotM K Unit :=
  match taken with
  | none => pure ()
  | some loop => stopLoop loop

def takeLoop : RobotM K (Option Nat) := perform .loopTake

def hReleaseLease (owner : String) : RobotM K (Reply K) := do
  attempt (← perform (.leaseRelease owner))
  stopTaken (← withRobotLock takeLoop)
  withRobotLock stop
  pure .released

def hHeartbeat (owner : String) : RobotM K (Reply K) := do
  let expiresAt ← attempt (← perform (.leaseHeartbeat owner))
  pure (.refreshed expiresAt)

def hGetLease : RobotM K (Reply K) := do
  let owner ← perform .leaseOwner
  pure (.leaseOwner owner)

def hSetSafetyProfile (owner : String) (name : Except Exc String) : RobotM K (Reply K) := do
  requireLease owner
  withRobotLock do
    let name ← attempt name
    setSafetyProfile name
  let profile ← perform .activeProfile
  pure (.profile profile.name)

def hGetSafetyProfile : RobotM K (Reply K) := do
  let profile ← perform .activeProfile
  pure (.profileConfig profile)

def stateUnderLock : RobotM K (Nat ⊕ RobotState K) := do
  match ← perform .loopSlot with
  | some loop => pure (.inl loop)
  | none => do
      let s ← getState
      pure (.inr s)

def loopState (loop : Nat) : RobotM K (RobotState K) := do
  attempt (← perform (.loopState loop))

/-- With the lock busy: the loop's snapshot, else the last one of the executing thread,
else wait. -/
def stateWithoutLock : RobotM K (RobotState K) := do
  match ← perform .loopSlot with
  | some loop => loopState loop
  | none => do
      match ← perform .peekState with
      | some s => pure s
      | none => withRobotLock getState

def hGetState : RobotM K (Reply K) := do
  let s ← do
    match ← perform .lockTryAcquire with
    | none => stateWithoutLock
    | some robot => do
        set robot
        match ← Script.ensuring stateUnderLock releaseRobotLock with
        | .inl loop => loopState loop
        | .inr s => pure s
  let owner ← perform .leaseOwner
  pure (.state { s with activeOwner := owner })

/-! ### Blocking motion RPCs -/

def hStartCartesianImpedance (owner : String) (params : Except Exc (ModeStart K))
    (realtime : Bool) : RobotM K (Reply K) := do
  requireLease owner
  let p ← attempt params
  motionLock owner (startCartesianImpedance p.impedance realtime none p.nullspaceQ)
  pure .started

def hStartJointImpedance (owner : String) (realtime : Bool) : RobotM K (Reply K) := do
  requireLease owner
  motionLock owner (startJointImpedance none realtime)
  pure .started

def hServoCartesianDelta (owner : String) (params : Except Exc (DeltaParams K)) :
    RobotM K (Reply K) := do
  requireLease owner
  let r ← motionLock owner do
    let p ← attempt params
    servoCartesianDelta p.translation p.rotation p.duration p.frame p.gripper
  pure (.result r)

def hServoCartesianPose (owner : String) (params : Except Exc (PoseParams K)) :
    RobotM K (Reply K) := do
  requireLease owner
  let r ← motionLock owner do
    let p ← attempt params
    servoCartesianPose p.pose p.duration p.gripper
  pure (.result r)

def hExecuteCartesianChunk (owner : String) (chunk : Except Exc (CartesianChunk K)) :
    RobotM K (Reply K) := do
  requireLease owner
  let chunk ← attempt chunk
  let r ← motionLock owner (executeCartesianChunk chunk)
  pure (.result r)

def hExecuteJointChunk (owner : String) (chunk : Except Exc (JointChunk K)) :
    RobotM K (Reply K) := do
  requireLease owner
  let chunk ← attempt chunk
  let r ← motionLock owner (executeJointChunk chunk)
  pure (.result r)

def hMoveJoint (owner : String) (params : Except Exc (MoveParams K)) : RobotM K (Reply K) := do
  requireLease owner
  let r ← motionLock owner do
    let p ← attempt params
    moveJoint p.q p.duration p.maxJointSpeed p.realtime
  pure (.result r)

def hCommandGripper (owner : String) (cmd : Except Exc (GripperCommand K)) (wait : Bool)
    (timeout : Except Exc K) : RobotM K (Reply K) := do
  requireLease owner
  let cmd ← attempt cmd
  let width ← motionLock owner do
    let timeout ← attempt timeout
    commandGripper cmd wait timeout
  pure (.finalWidth width)

def hHome (owner : String) (q : Except Exc (Option (List K)))
    (params : Except Exc (HomeParams K)) : RobotM K (Reply K) := do
  requireLease owner
  let q ← attempt q
  motionLock owner do
    let p ← attempt params
    home q p.maxJointSpeed p.duration
  pure .ok

def hZeroFtSensor (owner : String) : RobotM K (Reply K) := do
  requireLease owner
  motionLock owner zeroFtSensor
  pure .ok

def hGoHomeSafe (owner : String) (q : Except Exc (Option (List K)))
    (params : Except Exc (GoHomeParams K)) : RobotM K (Reply K) := do
  requireLease owner
  let q ← attempt q
  let r ← motionLock owner do
    let p ← attempt params
    goHomeSafe q p.liftM p.openGripperWidth p.maxTcpSpeed p.maxJointSpeed
  pure (.result r)

/-! ### Stop -/

/-- The second half of `stop`: stop the robot, or re-arm the cancel when a chunk has
taken the lock meanwhile. -/
def stopRobot : RobotM K Unit := do
  match ← perform .lockTryAcquire with
  | none => requestStop
  | some robot => do
      set robot
      Script.ensuring stop releaseRobotLock

def hStop : RobotM K (Reply K) := do
  requestStop
  match ← perform .lockTryAcquire with
  | none => requestStop
  | some robot => do
      set robot
      stopTaken (← Script.ensuring takeLoop releaseRobotLock)
      stopRobot
  pure .stopped

/-! ### The servo loop -/

/-- `loop.start()`: it begins with a hold in a Cartesian mode. -/
def startLoop : RobotM K Unit := do
  let s ← readState
  let s ← if s.controlMode.isCartesian then pure s
    else do
      startCartesianImpedance
      readState
  resetFilter s

def installLoop (controlHz : Option K) : RobotM K Unit := do
  match ← perform .loopSlot with
  | some _ => pure ()
  | none => do
      startLoop
      let _ ← perform (.loopInstall controlHz)
      pure ()

def hStartServoLoop (owner : String) (controlHz : Option K) : RobotM K (Reply K) := do
  requireLease owner
  withRobotLock (installLoop controlHz)
  pure .started

def runningLoop : RobotM K Nat := do
  match ← withRobotLock (perform .loopSlot) with
  | none => throw ⟨.runtimeError, "no servo loop running; call start_servo_loop first"⟩
  | some loop => do
      if ← perform (.loopAlive loop) then pure loop
      else throw ⟨.runtimeError, "servo loop is DEAD (writer thread exited; see server log); " ++
        "call stop_servo_loop then start_servo_loop to recover"⟩

def hServoStream (owner : String) (target : Except Exc (List K × Option (GripperCommand K))) :
    RobotM K (Reply K) := do
  requireLease owner
  let loop ← runningLoop
  let (pose, gripper) ← attempt target
  attempt (← perform (.loopPublish loop (.cartesian pose gripper)))
  pure .ok

def hServoStreamJoint (owner : String) (q : Except Exc (List K)) : RobotM K (Reply K) := do
  requireLease owner
  let loop ← runningLoop
  let q ← attempt q
  attempt (← perform (.loopPublish loop (.joint q)))
  pure .ok

def hStopServoLoop (owner : String) : RobotM K (Reply K) := do
  requireLease owner
  stopTaken (← withRobotLock takeLoop)
  pure .stopped

def handle : Request K → RobotM K (Reply K)
  | .ping => pure .pong
  | .acquireLease owner force => hAcquireLease owner force
  | .releaseLease owner => hReleaseLease owner
  | .heartbeat owner => hHeartbeat owner
  | .getLease => hGetLease
  | .setSafetyProfile owner name => hSetSafetyProfile owner name
  | .getSafetyProfile => hGetSafetyProfile
  | .getState => hGetState
  | .startCartesianImpedance owner params realtime => hStartCartesianImpedance owner params realtime
  | .startJointImpedance owner realtime => hStartJointImpedance owner realtime
  | .servoCartesianDelta owner params => hServoCartesianDelta owner params
  | .servoCartesianPose owner params => hServoCartesianPose owner params
  | .executeCartesianChunk owner chunk => hExecuteCartesianChunk owner chunk
  | .executeJointChunk owner chunk => hExecuteJointChunk owner chunk
  | .moveJoint owner params => hMoveJoint owner params
  | .commandGripper owner cmd wait timeout => hCommandGripper owner cmd wait timeout
  | .home owner q params => hHome owner q params
  | .goHomeSafe owner q params => hGoHomeSafe owner q params
  | .zeroFtSensor owner => hZeroFtSensor owner
  | .stop => hStop
  | .startServoLoop owner controlHz => hStartServoLoop owner controlHz
  | .servoStream owner target => hServoStream owner target
  | .servoStreamJoint owner q => hServoStreamJoint owner q
  | .stopServoLoop owner => hStopServoLoop owner

end FlexivControl
