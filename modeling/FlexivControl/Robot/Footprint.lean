/-
Which operations each method of the facade can perform.

Three nested classes are enough: reading and gripper work, a Cartesian chunk,
and any motion. None of them sets the cancel flag, and none touches the lease,
the robot lock or the servo loop.
-/

import FlexivControl.Robot.Facade
import FlexivControl.Library.Footprint

namespace FlexivControl

open Script

variable {K : Type} [Scalar K]

theorem op_answered (op : Op K) : Nonempty ((effects K).Resp op) := by
  have refused : Exc := ⟨.runtimeError, ""⟩
  have robot : Robot K := .init {} {}
  cases op with
  | readState => exact ⟨.error refused⟩
  | inFault => exact ⟨.error refused⟩
  | write call => exact ⟨.error refused⟩
  | cancelIsSet site => exact ⟨false⟩
  | wallClock => exact ⟨(0 : K)⟩
  | perfCounter => exact ⟨(0 : K)⟩
  | peekState => exact ⟨none⟩
  | facadeOwner => exact ⟨none⟩
  | activeProfile => exact ⟨robot.profile⟩
  | loadSafetyProfile name => exact ⟨.error refused⟩
  | leaseOwner => exact ⟨""⟩
  | leaseAcquire owner force => exact ⟨.error refused⟩
  | leaseHeartbeat owner => exact ⟨.error refused⟩
  | leaseRelease owner => exact ⟨.error refused⟩
  | leaseCheck owner => exact ⟨.error refused⟩
  | holdEnter owner => exact ⟨.error refused⟩
  | lockAcquire => exact ⟨robot⟩
  | lockTryAcquire => exact ⟨none⟩
  | loopSlot => exact ⟨none⟩
  | loopTake => exact ⟨none⟩
  | loopInstall controlHz => exact ⟨(0 : Nat)⟩
  | loopAlive loop => exact ⟨false⟩
  | loopState loop => exact ⟨.error refused⟩
  | loopPublish loop target => exact ⟨.error refused⟩
  | _ => exact ⟨()⟩

/-- Calls that neither move the arm nor change its mode. -/
def BackendCall.IsSteady : BackendCall K → Prop
  | .moveGripper _ | .setContactWrenchLimit _ => True
  | _ => False

def BackendCall.IsQuiet : BackendCall K → Prop
  | .moveGripper _ | .stop | .setContactWrenchLimit _ => True
  | _ => False

def BackendCall.IsCartesian : BackendCall K → Prop
  | .streamCartesian _ _ => True
  | .setMode mode _ => mode.isCartesian = true
  | call => call.IsQuiet

def Op.IsGripping : Op K → Prop
  | .readState | .inFault | .wallClock | .perfCounter | .publishState _ | .facadeOwner
  | .setFacadeOwner _ | .write (.moveGripper _) => True
  | _ => False

/-- Reading, clocks, gripper work. -/
def Op.IsSteady : Op K → Prop
  | .readState | .inFault | .wallClock | .perfCounter | .publishState _ | .facadeOwner
  | .setFacadeOwner _ => True
  | .write call => call.IsSteady
  | _ => False

def Op.IsQuiet : Op K → Prop
  | .readState | .inFault | .wallClock | .perfCounter | .publishState _ | .facadeOwner
  | .setFacadeOwner _ => True
  | .write call => call.IsQuiet
  | _ => False

/-- What a Cartesian chunk and a gripper wait may do: quiet operations, Cartesian
streaming, and tests and clears of the cancel flag outside the guard. -/
def Op.IsCartesian : Op K → Prop
  | .write call => call.IsCartesian
  | .cancelIsSet site => site ≠ .guard ∧ site ≠ .guardReason
  | .cancelClear | .chunkReturns _ _ => True
  | op => op.IsQuiet

def Op.IsMotion : Op K → Prop
  | .write _ | .cancelIsSet _ => True
  | op => op.IsCartesian

theorem Op.IsGripping.steady {op : Op K} (gripping : op.IsGripping) : op.IsSteady := by
  cases op with
  | write call =>
      cases call with
      | moveGripper cmd => trivial
      | _ => exact absurd gripping id
  | _ => exact gripping

theorem Op.IsSteady.quiet {op : Op K} (steady : op.IsSteady) : op.IsQuiet := by
  cases op with
  | write call =>
      cases call with
      | moveGripper cmd => trivial
      | setContactWrenchLimit wrench => trivial
      | _ => exact absurd steady id
  | _ => exact steady

theorem BackendCall.IsQuiet.cartesian {call : BackendCall K} (quiet : call.IsQuiet) :
    call.IsCartesian := by
  cases call with
  | setMode mode params => exact absurd quiet id
  | streamCartesian pose wrench => trivial
  | streamJoint q => exact quiet
  | moveGripper cmd => exact quiet
  | stop => exact quiet
  | setContactWrenchLimit wrench => exact quiet
  | home qHome => exact quiet
  | zeroFtSensor => exact quiet

theorem Op.IsQuiet.cartesian {op : Op K} (quiet : op.IsQuiet) : op.IsCartesian := by
  cases op with
  | write call => exact BackendCall.IsQuiet.cartesian quiet
  | cancelIsSet site => exact absurd quiet id
  | cancelClear => trivial
  | chunkReturns success stopReason => trivial
  | _ => exact quiet

theorem Op.IsCartesian.motion {op : Op K} (cartesian : op.IsCartesian) : op.IsMotion := by
  cases op with
  | write call => trivial
  | cancelIsSet site => trivial
  | _ => exact cartesian

section Primitives

variable {ok : Op K → Prop}

theorem uses_op {op : Op K} (permitted : ok op) :
    Uses (S := effects K) ok (perform op) := uses_perform permitted

theorem uses_attempt {α : Type} (result : Except Exc α) :
    Uses (S := effects K) ok (attempt result) := by
  cases result with
  | ok a => exact uses_pure a
  | error e => exact uses_throw e

theorem uses_backend {call : BackendCall K} (permitted : ok (.write call)) :
    Uses (S := effects K) ok (backend call) :=
  (uses_op permitted).bind uses_attempt

theorem uses_filterCartesian (pose : Pose K) (state : RobotState K) (cap : Option (Wrench K)) :
    Uses (S := effects K) ok (filterCartesian pose state cap) :=
  uses_get.bind fun _ => (uses_set _).bind fun _ => uses_pure _

theorem uses_filterJoint (q : List K) (state : RobotState K) :
    Uses (S := effects K) ok (filterJoint q state) :=
  uses_get.bind fun _ => (uses_attempt _).bind fun _ => (uses_set _).bind fun _ => uses_pure _

theorem uses_resetFilter (state : RobotState K) :
    Uses (S := effects K) ok (resetFilter state) := uses_modify _

theorem uses_verifyChunkProfile (requested : String) (result : ExecutionResult K) :
    Uses (S := effects K) ok (verifyChunkProfile requested result) := by
  refine uses_get.bind fun robot => ?_
  dsimp only
  split
  · exact uses_throw _
  · exact uses_pure _

end Primitives

section Gripping

theorem gripping_checkLease : Uses (S := effects K) Op.IsGripping (checkLease : RobotM K Unit) := by
  refine Uses.bind (uses_op trivial) fun owner => ?_
  cases owner with
  | none => exact uses_op trivial
  | some owner => exact uses_pure _

theorem gripping_readState :
    Uses (S := effects K) Op.IsGripping (readState : RobotM K (RobotState K)) :=
  Uses.bind (uses_op trivial) uses_attempt

theorem gripping_getState :
    Uses (S := effects K) Op.IsGripping (getState : RobotM K (RobotState K)) :=
  gripping_readState.bind fun _ => Uses.bind (uses_op trivial) fun _ => uses_pure _

theorem gripping_inFault : Uses (S := effects K) Op.IsGripping (inFault : RobotM K Bool) :=
  Uses.bind (uses_op trivial) uses_attempt

theorem gripping_tryFireClose (chunk : CartesianChunk K) (run : ChunkRun K) (g : GripperCommand K)
    (state : RobotState K) :
    Uses (S := effects K) Op.IsGripping (tryFireClose chunk run g state) := by
  unfold tryFireClose
  dsimp only
  split
  · split <;> exact uses_pure _
  · exact (uses_backend trivial).bind fun _ => uses_pure _

theorem gripping_firePending (chunk : CartesianChunk K) (run : ChunkRun K) (state : RobotState K) :
    Uses (S := effects K) Op.IsGripping (firePending chunk run state) := by
  unfold firePending
  split
  · exact uses_pure _
  · split
    · exact gripping_tryFireClose chunk _ _ state
    · exact uses_pure _

theorem gripping_settleFirst (chunk : CartesianChunk K) (run : ChunkRun K) (state : RobotState K) :
    Uses (S := effects K) Op.IsGripping (settleFirst chunk run state) := by
  unfold settleFirst
  split
  · exact uses_pure _
  · exact gripping_tryFireClose chunk _ _ state

theorem gripping_handleGripper (chunk : CartesianChunk K) (controlHz : K) (segmentTicks : Nat)
    (run : ChunkRun K) (grip : GripperCommand K) (state : RobotState K) :
    Uses (S := effects K) Op.IsGripping
      (handleGripper chunk controlHz segmentTicks run grip state) := by
  unfold handleGripper
  dsimp only
  split
  · split
    · exact uses_pure _
    · exact (gripping_settleFirst chunk run state).bind fun _ => uses_pure _
  · exact (uses_backend trivial).bind fun _ => uses_pure _

theorem gripping_gripperPhase (chunk : CartesianChunk K) (controlHz : K) (sp : CartesianSetpoint K)
    (run : ChunkRun K) (state : RobotState K) :
    Uses (S := effects K) Op.IsGripping (gripperPhase chunk controlHz sp run state) := by
  unfold gripperPhase
  split
  · exact uses_pure _
  · exact gripping_handleGripper chunk _ _ run _ state

theorem gripping_recordRow (t0 : K) (pose : Pose K) (state : RobotState K) (run : ChunkRun K) :
    Uses (S := effects K) Op.IsGripping (recordRow t0 pose state run) := by
  unfold recordRow
  split
  · exact uses_pure _
  · exact Uses.bind (uses_op trivial) fun _ => uses_pure _

theorem gripping_afterStream (chunk : CartesianChunk K) (t0 : K) (sp : CartesianSetpoint K)
    (state : RobotState K) (pose : Pose K) (run : ChunkRun K) :
    Uses (S := effects K) Op.IsGripping (afterStream chunk t0 sp state pose run) :=
  uses_get.bind fun _ => (gripping_firePending chunk run state).bind fun _ =>
    (gripping_gripperPhase chunk _ sp _ state).bind fun _ =>
      (gripping_recordRow t0 pose state _).bind fun _ => uses_pure _

theorem gripping_resolvePending (chunk : CartesianChunk K) (run : ChunkRun K) :
    Uses (S := effects K) Op.IsGripping (resolvePending chunk run) := by
  unfold resolvePending
  split
  · exact uses_pure _
  · dsimp only
    split
    · exact gripping_getState.bind fun state => gripping_tryFireClose chunk _ _ state
    · split <;> exact uses_pure _

end Gripping

section Steady

theorem gripping_steady {α : Type} {x : RobotM K α}
    (gripping : Uses (S := effects K) Op.IsGripping x) : Uses (S := effects K) Op.IsSteady x :=
  gripping.mono fun _ => Op.IsGripping.steady

theorem steady_checkLease : Uses (S := effects K) Op.IsSteady (checkLease : RobotM K Unit) :=
  gripping_steady gripping_checkLease

theorem steady_getState :
    Uses (S := effects K) Op.IsSteady (getState : RobotM K (RobotState K)) :=
  gripping_steady gripping_getState

theorem steady_inFault : Uses (S := effects K) Op.IsSteady (inFault : RobotM K Bool) :=
  gripping_steady gripping_inFault

theorem steady_afterStream (chunk : CartesianChunk K) (t0 : K) (sp : CartesianSetpoint K)
    (state : RobotState K) (pose : Pose K) (run : ChunkRun K) :
    Uses (S := effects K) Op.IsSteady (afterStream chunk t0 sp state pose run) :=
  gripping_steady (gripping_afterStream chunk t0 sp state pose run)

theorem steady_resolvePending (chunk : CartesianChunk K) (run : ChunkRun K) :
    Uses (S := effects K) Op.IsSteady (resolvePending chunk run) :=
  gripping_steady (gripping_resolvePending chunk run)

theorem steady_restoreWrenchLimit (relaxed : Bool) (run : ChunkRun K) :
    Uses (S := effects K) Op.IsSteady (restoreWrenchLimit relaxed run) := by
  unfold restoreWrenchLimit
  split
  · refine uses_get.bind fun robot => Uses.bind (uses_op trivial) fun answer => ?_
    cases answer <;> exact uses_pure _
  · exact uses_pure _

end Steady

section Quiet

theorem steady_quiet {α : Type} {x : RobotM K α}
    (steady : Uses (S := effects K) Op.IsSteady x) : Uses (S := effects K) Op.IsQuiet x :=
  steady.mono fun _ => Op.IsSteady.quiet

theorem uses_checkLease : Uses (S := effects K) Op.IsQuiet (checkLease : RobotM K Unit) :=
  steady_quiet steady_checkLease

theorem uses_readState :
    Uses (S := effects K) Op.IsQuiet (readState : RobotM K (RobotState K)) :=
  steady_quiet (gripping_steady gripping_readState)

theorem uses_getState :
    Uses (S := effects K) Op.IsQuiet (getState : RobotM K (RobotState K)) :=
  steady_quiet steady_getState

theorem uses_inFault : Uses (S := effects K) Op.IsQuiet (inFault : RobotM K Bool) :=
  steady_quiet steady_inFault

theorem uses_afterStream (chunk : CartesianChunk K) (t0 : K) (sp : CartesianSetpoint K)
    (state : RobotState K) (pose : Pose K) (run : ChunkRun K) :
    Uses (S := effects K) Op.IsQuiet (afterStream chunk t0 sp state pose run) :=
  steady_quiet (steady_afterStream chunk t0 sp state pose run)

theorem uses_resolvePending (chunk : CartesianChunk K) (run : ChunkRun K) :
    Uses (S := effects K) Op.IsQuiet (resolvePending chunk run) :=
  steady_quiet (steady_resolvePending chunk run)

theorem uses_restoreWrenchLimit (relaxed : Bool) (run : ChunkRun K) :
    Uses (S := effects K) Op.IsQuiet (restoreWrenchLimit relaxed run) :=
  steady_quiet (steady_restoreWrenchLimit relaxed run)

end Quiet

section Cartesian

theorem quiet_cartesian {α : Type} {x : RobotM K α}
    (quiet : Uses (S := effects K) Op.IsQuiet x) : Uses (S := effects K) Op.IsCartesian x :=
  quiet.mono fun _ => Op.IsQuiet.cartesian

theorem uses_startCartesianImpedance (impedance : Option (ImpedanceParams K)) (realtime : Bool)
    (forceControl : Option (ForceControlParams K)) (nullspaceQ : Option (List K)) :
    Uses (S := effects K) Op.IsCartesian
      (startCartesianImpedance impedance realtime forceControl nullspaceQ) := by
  refine uses_get.bind fun robot => uses_backend ?_
  cases realtime <;> exact rfl

theorem uses_returnResult (result : ExecutionResult K) (raiseOnStop : Bool) :
    Uses (S := effects K) Op.IsCartesian (returnResult result raiseOnStop) := by
  refine Uses.bind (uses_op trivial) fun _ => ?_
  split
  · exact uses_throw _
  · exact uses_pure _

theorem uses_abortAtEntry (raiseOnStop : Bool) :
    Uses (S := effects K) Op.IsCartesian (abortAtEntry raiseOnStop) :=
  Uses.bind (uses_op trivial) fun _ =>
    (quiet_cartesian uses_getState).bind fun _ => uses_returnResult _ raiseOnStop

theorem uses_cancelTick : Uses (S := effects K) Op.IsCartesian (cancelTick : RobotM K Unit) :=
  Uses.bind (uses_op trivial) fun _ => uses_backend trivial

theorem uses_cartesianTick (chunk : CartesianChunk K) (wrenchCap : Wrench K) (t0 : K)
    (sp : CartesianSetpoint K) (run : ChunkRun K) :
    Uses (S := effects K) Op.IsCartesian (cartesianTick chunk wrenchCap t0 sp run) := by
  unfold cartesianTick
  dsimp only
  refine Uses.bind (uses_op ⟨by decide, by decide⟩) fun cancelled => ?_
  split
  · exact uses_cancelTick.bind fun _ => uses_pure _
  · refine (quiet_cartesian uses_getState).bind fun state => ?_
    refine (quiet_cartesian uses_inFault).bind fun faulted => ?_
    split
    · exact (uses_backend trivial).bind fun _ => uses_pure _
    · split
      · exact (uses_backend trivial).bind fun _ => uses_pure _
      · refine (uses_filterCartesian _ _ _).bind fun sr => ?_
        split
        · refine (uses_backend trivial).bind fun _ => ?_
          exact (quiet_cartesian (uses_afterStream chunk t0 sp state _ _)).bind fun _ => uses_pure _
        · exact (uses_backend trivial).bind fun _ => uses_pure _

theorem uses_cartesianTicks (chunk : CartesianChunk K) (wrenchCap : Wrench K) (t0 : K)
    (setpoints : List (CartesianSetpoint K)) :
    ∀ run, Uses (S := effects K) Op.IsCartesian
      (cartesianTicks chunk wrenchCap t0 setpoints run) := by
  induction setpoints with
  | nil => exact fun run => uses_pure _
  | cons sp rest ih =>
      intro run
      refine (uses_cartesianTick chunk wrenchCap t0 sp run).bind fun out => ?_
      obtain ⟨run, goOn⟩ := out
      cases goOn with
      | true => exact ih run
      | false => exact uses_pure run

theorem uses_guardedTicks (chunk : CartesianChunk K) (wrenchCap : Wrench K) (relaxed : Bool)
    (t0 : K) (setpoints : List (CartesianSetpoint K)) (run : ChunkRun K) :
    Uses (S := effects K) Op.IsCartesian
      (guardedTicks chunk wrenchCap relaxed t0 setpoints run) := by
  unfold guardedTicks
  apply Uses.bind
  · apply Uses.tryCatch
    · refine (uses_cartesianTicks chunk wrenchCap t0 setpoints run).bind fun run => ?_
      exact (quiet_cartesian (uses_resolvePending chunk run)).bind fun _ => uses_pure _
    · exact fun e => uses_pure _
  · intro outcome
    cases outcome with
    | ok run => exact quiet_cartesian (uses_restoreWrenchLimit relaxed run)
    | error e =>
        exact (quiet_cartesian (uses_restoreWrenchLimit relaxed run)).bind fun _ => uses_throw e

theorem uses_ensureCartesianStart (chunk : CartesianChunk K) (result : ExecutionResult K) :
    Uses (S := effects K) Op.IsCartesian (ensureCartesianStart chunk result) := by
  refine (quiet_cartesian uses_getState).bind fun start => ?_
  split
  · exact uses_pure _
  · refine (uses_startCartesianImpedance _ _ _ _).bind fun _ => ?_
    exact (quiet_cartesian uses_getState).bind fun _ => uses_pure _

theorem uses_armWrenchLimit (relaxed : Bool) (wrenchCap : Wrench K) :
    Uses (S := effects K) Op.IsCartesian (armWrenchLimit relaxed wrenchCap) := by
  unfold armWrenchLimit
  split
  · exact uses_backend trivial
  · exact uses_pure _

theorem uses_runCartesianChunk (chunk : CartesianChunk K) (raiseOnStop record : Bool) :
    Uses (S := effects K) Op.IsCartesian (runCartesianChunk chunk raiseOnStop record) := by
  refine (uses_verifyChunkProfile _ _).bind fun result => ?_
  refine (uses_ensureCartesianStart chunk result).bind fun started => ?_
  refine (uses_resetFilter _).bind fun _ => (uses_attempt _).bind fun chunk => ?_
  refine uses_get.bind fun robot => ?_
  refine (uses_armWrenchLimit _ _).bind fun _ => Uses.bind (uses_op trivial) fun t0 => ?_
  refine (uses_guardedTicks _ _ _ _ _ _).bind fun run => ?_
  exact (quiet_cartesian uses_getState).bind fun _ => uses_returnResult _ raiseOnStop

theorem uses_executeCartesianChunk (chunk : CartesianChunk K) (raiseOnStop record : Bool) :
    Uses (S := effects K) Op.IsCartesian (executeCartesianChunk chunk raiseOnStop record) := by
  refine (quiet_cartesian uses_checkLease).bind fun _ => ?_
  refine Uses.bind (uses_op ⟨by decide, by decide⟩) fun cancelled => ?_
  split
  · exact uses_abortAtEntry raiseOnStop
  · exact uses_runCartesianChunk chunk raiseOnStop record

section Gripper

variable {ok : Op K → Prop} (steady : ∀ op : Op K, op.IsSteady → ok op)
  (waits : ok (.cancelIsSet .gripperWait))

include steady waits

theorem uses_awaitGripper_of (cmd : GripperCommand K) (timeout t0 initial : K) (polls : Nat) :
    ∀ prevWidth moved state, Uses (S := effects K) ok
      (awaitGripper cmd timeout t0 initial polls prevWidth moved state) := by
  have clock : ok .wallClock := steady _ trivial
  induction polls with
  | zero => exact fun prevWidth moved state => uses_pure _
  | succ polls ih =>
      intro prevWidth moved state
      refine Uses.bind (uses_op clock) fun now => ?_
      split
      · refine Uses.bind (uses_op waits) fun cancelled => ?_
        split
        · exact uses_pure _
        · refine (steady_getState.mono steady).bind fun state => ?_
          refine Uses.bind (uses_op clock) fun now => ?_
          dsimp only
          split
          · exact uses_pure _
          · exact ih _ _ _
      · exact uses_pure _

theorem uses_commandGripper_of (cmd : GripperCommand K) (wait : Bool) (timeout : K) :
    Uses (S := effects K) ok (commandGripper cmd wait timeout) := by
  have moves : ok (.write (.moveGripper cmd)) := steady _ trivial
  refine (steady_checkLease.mono steady).bind fun _ => ?_
  refine (steady_getState.mono steady).bind fun initial => (uses_backend moves).bind fun _ => ?_
  split
  · refine Uses.bind (uses_op (steady _ trivial)) fun t0 => ?_
    refine (steady_getState.mono steady).bind fun state => ?_
    exact (uses_awaitGripper_of steady waits cmd timeout t0 _ _ none false state).bind
      fun _ => uses_pure _
  · exact uses_pure _

end Gripper

theorem uses_commandGripper (cmd : GripperCommand K) (wait : Bool) (timeout : K) :
    Uses (S := effects K) Op.IsCartesian (commandGripper cmd wait timeout) :=
  uses_commandGripper_of (fun _ steady => steady.quiet.cartesian) ⟨by decide, by decide⟩ cmd wait
    timeout

theorem uses_homeGripper (width : Option K) :
    Uses (S := effects K) Op.IsCartesian (homeGripper width) := by
  unfold homeGripper
  split
  · exact uses_pure _
  · exact (uses_commandGripper _ _ _).bind fun _ => uses_pure _

theorem uses_liftStage (liftM maxTcpSpeed : K) :
    Uses (S := effects K) Op.IsCartesian (liftStage liftM maxTcpSpeed) := by
  apply Uses.tryCatch
  · refine (quiet_cartesian uses_getState).bind fun s => uses_get.bind fun robot => ?_
    exact (uses_executeCartesianChunk _ _ _).bind fun _ => uses_pure _
  · exact fun e => uses_pure _

theorem uses_gripperStage (openGripperWidth : Option K) (log : Log K) :
    Uses (S := effects K) Op.IsCartesian (gripperStage openGripperWidth log) := by
  refine uses_get.bind fun robot => ?_
  split
  · exact uses_pure _
  · apply Uses.tryCatch
    · exact (uses_commandGripper _ _ _).bind fun _ => uses_pure _
    · exact fun e => uses_pure _

end Cartesian

/-! ### Every motion -/

section Motion

theorem cartesian_motion {α : Type} {x : RobotM K α}
    (cartesian : Uses (S := effects K) Op.IsCartesian x) : Uses (S := effects K) Op.IsMotion x :=
  cartesian.mono fun _ => Op.IsCartesian.motion

theorem quiet_motion {α : Type} {x : RobotM K α}
    (quiet : Uses (S := effects K) Op.IsQuiet x) : Uses (S := effects K) Op.IsMotion x :=
  cartesian_motion (quiet_cartesian quiet)

theorem uses_servoCartesianDelta (translation rotation : Vec3 K) (duration : Option K)
    (frame : String) (gripper : Option (GripperCommand K)) :
    Uses (S := effects K) Op.IsMotion
      (servoCartesianDelta translation rotation duration frame gripper) :=
  (quiet_motion uses_checkLease).bind fun _ => uses_get.bind fun _ =>
    (quiet_motion uses_getState).bind fun _ => (uses_attempt _).bind fun _ =>
      (uses_attempt _).bind fun _ => cartesian_motion (uses_executeCartesianChunk _ _ _)

theorem uses_servoCartesianPose (pose : Pose K) (duration : K)
    (gripper : Option (GripperCommand K)) :
    Uses (S := effects K) Op.IsMotion (servoCartesianPose pose duration gripper) :=
  uses_get.bind fun _ => (uses_attempt _).bind fun _ =>
    cartesian_motion (uses_executeCartesianChunk _ _ _)

theorem uses_startJointImpedance (jointImpedance : Option (JointImpedanceParams K))
    (realtime : Bool) :
    Uses (S := effects K) Op.IsMotion (startJointImpedance jointImpedance realtime) :=
  uses_backend trivial

theorem uses_jointTick (q : List K) (result : ExecutionResult K) :
    Uses (S := effects K) Op.IsMotion (jointTick q result) := by
  refine Uses.bind (uses_op trivial) fun cancelled => ?_
  split
  · exact (cartesian_motion uses_cancelTick).bind fun _ => uses_pure _
  · refine (quiet_motion uses_getState).bind fun state => ?_
    refine (quiet_motion uses_inFault).bind fun faulted => ?_
    split
    · exact (uses_backend trivial).bind fun _ => uses_pure _
    · refine uses_get.bind fun robot => ?_
      split
      · exact (uses_backend trivial).bind fun _ => uses_pure _
      · refine (uses_filterJoint _ _).bind fun sr => ?_
        split <;> exact (uses_backend trivial).bind fun _ => uses_pure _

theorem uses_jointTicks (setpoints : List (Except Exc (List K))) :
    ∀ result, Uses (S := effects K) Op.IsMotion (jointTicks setpoints result) := by
  induction setpoints with
  | nil => exact fun result => uses_pure _
  | cons next rest ih =>
      intro result
      refine (uses_attempt _).bind fun q => (uses_jointTick q result).bind fun out => ?_
      obtain ⟨result, goOn⟩ := out
      cases goOn with
      | true => exact ih result
      | false => exact uses_pure result

theorem uses_ensureJointStart (result : ExecutionResult K) :
    Uses (S := effects K) Op.IsMotion (ensureJointStart result) := by
  refine (quiet_motion uses_getState).bind fun start => ?_
  split
  · refine (uses_startJointImpedance _ _).bind fun _ => ?_
    exact (quiet_motion uses_getState).bind fun _ => uses_pure _
  · exact uses_pure _

theorem uses_executeJointChunk (chunk : JointChunk K) (raiseOnStop : Bool) :
    Uses (S := effects K) Op.IsMotion (executeJointChunk chunk raiseOnStop) := by
  refine (quiet_motion uses_checkLease).bind fun _ => ?_
  refine Uses.bind (uses_op trivial) fun cancelled => ?_
  split
  · exact cartesian_motion (uses_abortAtEntry raiseOnStop)
  · refine (uses_verifyChunkProfile _ _).bind fun result => ?_
    refine (uses_ensureJointStart result).bind fun started => ?_
    refine (uses_resetFilter _).bind fun _ => uses_get.bind fun robot => ?_
    refine Uses.bind (uses_op trivial) fun _ => (uses_jointTicks _ _).bind fun result => ?_
    exact (quiet_motion uses_getState).bind fun _ => cartesian_motion (uses_returnResult _ raiseOnStop)

theorem uses_moveJoint (qTarget : List K) (duration maxJointSpeed : Option K) (realtime : Bool) :
    Uses (S := effects K) Op.IsMotion (moveJoint qTarget duration maxJointSpeed realtime) :=
  (quiet_motion uses_checkLease).bind fun _ => (quiet_motion uses_getState).bind fun _ =>
    (uses_attempt _).bind fun _ => (uses_startJointImpedance _ _).bind fun _ =>
      uses_get.bind fun _ => uses_executeJointChunk _ _

theorem uses_zeroFtSensor : Uses (S := effects K) Op.IsMotion (zeroFtSensor : RobotM K Unit) :=
  (quiet_motion uses_checkLease).bind fun _ => uses_backend trivial

theorem uses_home (q : Option (List K)) (maxJointSpeed duration : Option K) :
    Uses (S := effects K) Op.IsMotion (home q maxJointSpeed duration) := by
  refine (quiet_motion uses_checkLease).bind fun _ => uses_get.bind fun robot => ?_
  apply Uses.bind
  · apply Uses.tryCatch
    · unfold vendorHome
      split
      · exact uses_throw _
      · exact uses_backend trivial
    · intro e
      split
      · exact (uses_moveJoint _ _ _ _).bind fun _ => uses_pure _
      · exact uses_throw e
  · exact fun _ => cartesian_motion (uses_homeGripper _)

theorem uses_skipHome (log : Log K) : Uses (S := effects K) Op.IsMotion (skipHome log) :=
  Uses.bind (uses_op trivial) fun _ => (quiet_motion uses_getState).bind fun _ => uses_pure _

theorem uses_homeStage (qHome : Option (List K)) (maxJointSpeed : K) (log : Log K) :
    Uses (S := effects K) Op.IsMotion (homeStage qHome maxJointSpeed log) :=
  uses_get.bind fun _ => (uses_moveJoint _ _ _ _).bind fun _ => uses_pure _

theorem uses_goHomeSafe (qHome : Option (List K)) (liftM : K) (openGripperWidth : Option K)
    (maxTcpSpeed maxJointSpeed : K) :
    Uses (S := effects K) Op.IsMotion
      (goHomeSafe qHome liftM openGripperWidth maxTcpSpeed maxJointSpeed) := by
  refine (quiet_motion uses_checkLease).bind fun _ => ?_
  refine (cartesian_motion (uses_liftStage _ _)).bind fun lifted => ?_
  refine (cartesian_motion (uses_gripperStage _ _)).bind fun log => ?_
  apply Uses.bind
  · unfold homeForbidden
    split
    · exact uses_pure _
    · exact uses_op trivial
  · intro forbidden
    split
    · exact uses_skipHome log
    · exact uses_homeStage qHome maxJointSpeed log

end Motion

end FlexivControl
