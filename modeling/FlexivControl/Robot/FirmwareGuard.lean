/-
The contact limit in the robot's firmware, over whole runs of the facade.

A limit is sent by a Cartesian mode start, by a chunk with a granted allowance and by the
restore at that chunk's end. Each call leaves the limit of its profile in force, as long as
no other limit comes with a profile and the robot refuses none.
-/

import FlexivControl.Robot.Allowance
import FlexivControl.Robot.Firmware
import FlexivControl.Robot.Session

namespace FlexivControl

open Rdk Script

variable {K : Type} [Scalar K]

/-- Calls of the facade, each run to its end, with the firmware behind them. -/
inductive FirmwareRun
    (meets : Firmware K → Call (effects K) → List (Call (rdkEffects K)) → Prop)
    (robot : Robot K) (f : Firmware K) :
    List (FacadeCall K) → Robot K → Firmware K → Prop where
  | start : FirmwareRun meets robot f [] robot f
  | call {calls : List (FacadeCall K)} {call : FacadeCall K} {robot' robot'' : Robot K}
      {f' f'' : Firmware K} {ops : List (Call (effects K))} {out : Except Exc Unit}
      (run : FirmwareRun meets robot f calls robot' f')
      (ran : Trace (call.run robot') ops (.done (out, robot'')))
      (served : (Firmware.serving meets).Follows f' ops f'') :
      FirmwareRun meets robot f (calls ++ [call]) robot'' f''

def FacadeCall.CarriesAllowance (profile : SafetyProfile K) : FacadeCall K → Prop
  | .executeCartesianChunk chunk _ _ => (grantedAllowance profile chunk).isSome = true
  | _ => False

/-- Whenever no chunk with a granted allowance is executing, in a Cartesian mode the last
limit sent is the one of the facade's profile: after every call that has returned, and
anywhere within a call that carries none. -/
def GuardFollows (meets : Firmware K → Call (effects K) → List (Call (rdkEffects K)) → Prop)
    (robot : Robot K) (f : Firmware K) : Prop :=
  ∀ calls robot' f', FirmwareRun meets robot f calls robot' f' →
    (f'.profile = robot'.profile ∧ f'.Armed) ∧
    ∀ (call : FacadeCall K) ops left f'', ¬ call.CarriesAllowance robot'.profile →
      Trace (call.run robot') ops left → (Firmware.serving meets).Follows f' ops f'' → f''.Armed

/-! ### Scripts of the facade under a firmware -/

/-- A predicate of the firmware that every plain operation keeps under one profile. -/
structure Firmware.Stable (safe inv : Firmware K → Prop) (profile : SafetyProfile K) : Prop where
  safe : ∀ f, inv f → safe f
  plain : ∀ f f' (op : Op K) (answer : Op.Resp op) calls, op.IsPlain profile → inv f →
    f.Step ⟨op, answer⟩ calls f' → f.Meets ⟨op, answer⟩ calls → inv f'

def Firmware.ArmedUnder (profile : SafetyProfile K) (f : Firmware K) : Prop :=
  f.profile = profile ∧ f.Armed

theorem Op.IsPlain.unswapped {op : Op K} {profile : SafetyProfile K} (plain : op.IsPlain profile) :
    ∀ other, op ≠ .setSafetyProfile other := by
  rintro other rfl
  exact plain

theorem stable_armed {safe : Firmware K → Prop} (armed_safe : ∀ f : Firmware K, f.Armed → safe f)
    (profile : SafetyProfile K) : Firmware.Stable safe (Firmware.ArmedUnder profile) profile where
  safe f inv := armed_safe f inv.2
  plain f f' op answer calls plain inv step meets := by
    obtain ⟨rfl, armed⟩ := inv
    exact ⟨step.profile_kept plain.unswapped, step.plain_armed plain armed meets⟩

theorem stable_profile (profile : SafetyProfile K) :
    Firmware.Stable (fun _ => True) (fun f : Firmware K => f.profile = profile) profile where
  safe _ _ := trivial
  plain _ _ _ _ _ plain same step _ := (step.profile_kept plain.unswapped).trans same

abbrev firmwareMonitor (safe : Firmware K → Prop) : Monitor (effects K) (Set (Firmware K)) :=
  (Firmware.serving Firmware.Meets).possible safe

/-- The facade is on the profile, and every state the firmware may be in satisfies `inv`. -/
def OnFirmware (inv : Firmware K → Prop) (profile : SafetyProfile K) (robot : Robot K)
    (states : Set (Firmware K)) : Prop :=
  robot.profile = profile ∧ ∀ f ∈ states, inv f

def Upholds {α : Type} (safe inv : Firmware K → Prop) (profile : SafetyProfile K)
    (x : RobotM K α) : Prop :=
  Keeps (firmwareMonitor safe) (OnFirmware inv profile) x

section Upholding

variable {safe inv : Firmware K → Prop} {profile : SafetyProfile K} {α : Type}

theorem upholds_get_bind {f : Robot K → RobotM K α}
    (rest : ∀ robot, robot.profile = profile → Upholds safe inv profile (f robot)) :
    Upholds safe inv profile (get >>= f) :=
  keeps_get_bind fun robot states holds => rest robot holds.1 robot states holds

theorem upholds_attempt (result : Except Exc α) :
    Upholds safe inv profile (attempt result) := by
  cases result with
  | ok a => exact keeps_pure a
  | error e => exact keeps_throw e

theorem upholds_filterCartesian (pose : Pose K) (state : RobotState K) (cap : Option (Wrench K)) :
    Upholds safe inv profile (filterCartesian pose state cap) := by
  intro robot states holds
  rw [wp_filterCartesian]
  exact holds

theorem upholds_filterJoint (q : List K) (state : RobotState K) :
    Upholds safe inv profile (filterJoint q state) := by
  intro robot states holds
  unfold filterJoint
  rw [wp_bind, wp_get, afterStep_ok, wp_bind, wp_attempt]
  cases robot.filter.filterJoint q state with
  | error e => exact holds
  | ok out => exact holds

theorem upholds_resetFilter (state : RobotState K) :
    Upholds safe inv profile (resetFilter state) :=
  keeps_modify fun _ _ holds => holds

theorem upholds_verifyChunkProfile (requested : String) (result : ExecutionResult K) :
    Upholds safe inv profile (verifyChunkProfile requested result) := by
  apply upholds_get_bind
  intro robot _
  dsimp only
  split
  · exact keeps_throw _
  · exact keeps_pure _

variable (stable : Firmware.Stable safe inv profile)

include stable

theorem upholds_perform {op : Op K} (plain : op.IsPlain profile) :
    Upholds safe inv profile (perform op) := by
  apply keeps_perform
  · intro robot states holds f member
    exact stable.safe f (holds.2 f member)
  · intro robot states answer holds _
    refine ⟨holds.1, ?_⟩
    rintro f' ⟨f, member, calls, step, meets⟩
    exact stable.plain f f' op answer calls plain (holds.2 f member) step meets

theorem upholds_backend {call : BackendCall K} (plain : call.IsPlain profile) :
    Upholds safe inv profile (backend call) := by
  have performed : Upholds safe inv profile (perform (.write call)) := upholds_perform stable plain
  exact performed.bind upholds_attempt

theorem upholds_of_gripping {x : RobotM K α} (left : LeavesMemory x)
    (gripping : Uses (S := effects K) Op.IsGripping x) : Upholds safe inv profile x := by
  apply left.keeps gripping
  · intro robot states op _ holds f member
    exact stable.safe f (holds.2 f member)
  · intro robot states op answer grips holds
    refine ⟨holds.1, ?_⟩
    rintro f' ⟨f, member, calls, step, meets⟩
    exact stable.plain f f' op answer calls (grips.plain profile) (holds.2 f member) step meets

theorem upholds_checkLease : Upholds safe inv profile (checkLease : RobotM K Unit) :=
  upholds_of_gripping stable leavesMemory_checkLease gripping_checkLease

theorem upholds_getState : Upholds safe inv profile (getState : RobotM K (RobotState K)) :=
  upholds_of_gripping stable leavesMemory_getState gripping_getState

theorem upholds_inFault : Upholds safe inv profile (inFault : RobotM K Bool) :=
  (upholds_perform stable (by trivial)).bind upholds_attempt

theorem upholds_cancelIsSet (site : CancelSite) :
    Upholds safe inv profile (cancelIsSet site : RobotM K Bool) :=
  upholds_perform stable (by trivial)

theorem upholds_perfCounter : Upholds safe inv profile (perfCounter : RobotM K K) :=
  upholds_perform stable (by trivial)

theorem upholds_wallClock : Upholds safe inv profile (wallClock : RobotM K K) :=
  upholds_perform stable (by trivial)

theorem upholds_halt (a : α) :
    Upholds safe inv profile (do backend .stop; pure a : RobotM K α) :=
  (upholds_backend stable (by trivial)).bind fun _ => keeps_pure a

theorem upholds_cancelTick : Upholds safe inv profile (cancelTick : RobotM K Unit) :=
  Keeps.bind (upholds_perform stable (by trivial)) fun _ => upholds_backend stable (by trivial)

theorem upholds_returnResult (result : ExecutionResult K) (raiseOnStop : Bool) :
    Upholds safe inv profile (returnResult result raiseOnStop) := by
  apply Keeps.bind (upholds_perform stable (by trivial))
  intro _
  split
  · exact keeps_throw _
  · exact keeps_pure _

theorem upholds_abortAtEntry (raiseOnStop : Bool) :
    Upholds safe inv profile (abortAtEntry raiseOnStop : RobotM K (ExecutionResult K)) :=
  Keeps.bind (upholds_perform stable (by trivial)) fun _ =>
    (upholds_getState stable).bind fun _ => upholds_returnResult stable _ raiseOnStop

theorem upholds_startCartesianImpedance (impedance : Option (ImpedanceParams K)) (realtime : Bool)
    (forceControl : Option (ForceControlParams K)) (nullspaceQ : Option (List K)) :
    Upholds safe inv profile
      (startCartesianImpedance impedance realtime forceControl nullspaceQ) := by
  apply upholds_get_bind
  rintro robot rfl
  exact upholds_backend stable fun _ => rfl

theorem upholds_ensureCartesianStart (chunk : CartesianChunk K) (result : ExecutionResult K) :
    Upholds safe inv profile (ensureCartesianStart chunk result) := by
  apply (upholds_getState stable).bind
  intro start
  split
  · exact keeps_pure _
  · exact (upholds_startCartesianImpedance stable _ _ _ _).bind fun _ =>
      (upholds_getState stable).bind fun _ => keeps_pure _

theorem upholds_cartesianTick (chunk : CartesianChunk K) (wrenchCap : Wrench K) (t0 : K)
    (sp : CartesianSetpoint K) (run : ChunkRun K) :
    Upholds safe inv profile (cartesianTick chunk wrenchCap t0 sp run) := by
  unfold cartesianTick
  dsimp only
  apply (upholds_cancelIsSet stable .tick).bind
  intro cancelled
  split
  · exact (upholds_cancelTick stable).bind fun _ => keeps_pure _
  · apply (upholds_getState stable).bind
    intro state
    apply (upholds_inFault stable).bind
    intro faulted
    split
    · exact upholds_halt stable _
    · split
      · exact upholds_halt stable _
      · apply Keeps.bind (upholds_filterCartesian _ _ _)
        intro sr
        split
        · apply (upholds_backend stable (by trivial)).bind
          intro _
          exact (upholds_of_gripping stable (leavesMemory_afterStream _ _ _ _ _ _)
            (gripping_afterStream _ _ _ _ _ _)).bind fun _ => keeps_pure _
        · exact upholds_halt stable _

theorem upholds_cartesianTicks (chunk : CartesianChunk K) (wrenchCap : Wrench K) (t0 : K)
    (setpoints : List (CartesianSetpoint K)) :
    ∀ run, Upholds safe inv profile (cartesianTicks chunk wrenchCap t0 setpoints run) := by
  induction setpoints with
  | nil => exact fun run => keeps_pure run
  | cons sp rest ih =>
      intro run
      apply (upholds_cartesianTick stable chunk wrenchCap t0 sp run).bind
      rintro ⟨run, goOn⟩
      cases goOn with
      | true => exact ih run
      | false => exact keeps_pure run

theorem upholds_resolvePending (chunk : CartesianChunk K) (run : ChunkRun K) :
    Upholds safe inv profile (resolvePending chunk run) := by
  unfold resolvePending
  split
  · exact keeps_pure _
  · dsimp only
    split
    · apply (upholds_getState stable).bind
      intro state
      exact upholds_of_gripping stable (leavesMemory_tryFireClose _ _ _ _)
        (gripping_tryFireClose _ _ _ _)
    · split
      · exact keeps_pure _
      · exact keeps_pure _

theorem upholds_ticked (chunk : CartesianChunk K) (wrenchCap : Wrench K) (t0 : K)
    (setpoints : List (CartesianSetpoint K)) (run : ChunkRun K) :
    Upholds safe inv profile (do
      let run ← cartesianTicks chunk wrenchCap t0 setpoints run
      let run ← resolvePending chunk run
      pure (Except.ok run : Except Exc (ChunkRun K))) :=
  (upholds_cartesianTicks stable chunk wrenchCap t0 setpoints run).bind fun run =>
    (upholds_resolvePending stable chunk run).bind fun _ => keeps_pure _

/-- A chunk from its arming on, the guard relaxed for it or not. -/
def armedRun (resolved : CartesianChunk K) (start : RobotState K) (raiseOnStop relaxed : Bool)
    (wrenchCap : Wrench K) (setpoints : List (CartesianSetpoint K)) (run : ChunkRun K) :
    RobotM K (ExecutionResult K) := do
  armWrenchLimit relaxed wrenchCap
  let t0 ← perfCounter
  let run ← guardedTicks resolved wrenchCap relaxed t0 setpoints run
  let final ← getState
  returnResult (run.report start final) raiseOnStop

theorem upholds_executeCartesianChunk_of {chunk : CartesianChunk K} {relaxed raiseOnStop : Bool}
    (granted : (grantedAllowance profile chunk).isSome = relaxed)
    (armed : ∀ resolved start wrenchCap setpoints run, Upholds safe inv profile
      (armedRun resolved start raiseOnStop relaxed wrenchCap setpoints run)) (record : Bool) :
    Upholds safe inv profile (executeCartesianChunk chunk raiseOnStop record) := by
  apply (upholds_checkLease stable).bind
  intro _
  apply (upholds_cancelIsSet stable .entry).bind
  intro cancelled
  split
  · exact upholds_abortAtEntry stable raiseOnStop
  · apply Keeps.bind (upholds_verifyChunkProfile _ _)
    intro result
    apply (upholds_ensureCartesianStart stable chunk result).bind
    rintro ⟨start, result⟩
    apply Keeps.bind (upholds_resetFilter start)
    intro _ robot states holds
    rw [wp_bind, wp_attempt]
    cases made : chunk.forExecution start.tcpPose with
    | error e => exact holds
    | ok resolved =>
        rw [afterStep_ok, wp_bind, wp_get, afterStep_ok]
        dsimp only
        rw [holds.1, forExecution_granted made profile, granted]
        exact armed resolved start _ _ _ robot states holds

theorem upholds_executeCartesianChunk {chunk : CartesianChunk K}
    (ungranted : grantedAllowance profile chunk = none) (raiseOnStop record : Bool) :
    Upholds safe inv profile (executeCartesianChunk chunk raiseOnStop record) := by
  have kept : (grantedAllowance profile chunk).isSome = false := by
    rw [ungranted]
    rfl
  have ticks (resolved : CartesianChunk K) (wrenchCap : Wrench K) (t0 : K)
      (setpoints : List (CartesianSetpoint K)) (run : ChunkRun K) :
      Upholds safe inv profile (guardedTicks resolved wrenchCap false t0 setpoints run) := by
    apply (Keeps.tryCatch (upholds_ticked stable resolved wrenchCap t0 setpoints run)
      fun e => keeps_pure (.error e)).bind
    intro outcome
    cases outcome with
    | ok run => exact keeps_pure run
    | error e => exact keeps_throw e
  apply upholds_executeCartesianChunk_of stable kept
  intro resolved start wrenchCap setpoints run
  apply Keeps.bind (keeps_pure ())
  intro _
  apply (upholds_perfCounter stable).bind
  intro t0
  apply (ticks resolved wrenchCap t0 setpoints run).bind
  intro run
  exact (upholds_getState stable).bind fun _ => upholds_returnResult stable _ raiseOnStop

theorem upholds_startJointImpedance (jointImpedance : Option (JointImpedanceParams K))
    (realtime : Bool) : Upholds safe inv profile (startJointImpedance jointImpedance realtime) := by
  apply upholds_backend stable
  intro cartesian
  cases realtime <;> cases cartesian

theorem upholds_jointTick (q : List K) (result : ExecutionResult K) :
    Upholds safe inv profile (jointTick q result) := by
  unfold jointTick
  apply (upholds_cancelIsSet stable .tick).bind
  intro cancelled
  split
  · exact (upholds_cancelTick stable).bind fun _ => keeps_pure _
  · apply (upholds_getState stable).bind
    intro state
    apply (upholds_inFault stable).bind
    intro faulted
    split
    · exact upholds_halt stable _
    · apply upholds_get_bind
      intro robot _
      split
      · exact upholds_halt stable _
      · apply Keeps.bind (upholds_filterJoint _ _)
        intro sr
        split
        · exact (upholds_backend stable (by trivial)).bind fun _ => keeps_pure _
        · exact upholds_halt stable _

theorem upholds_jointTicks (setpoints : List (Except Exc (List K))) :
    ∀ result, Upholds safe inv profile (jointTicks setpoints result) := by
  induction setpoints with
  | nil => exact fun result => keeps_pure result
  | cons next rest ih =>
      intro result
      apply Keeps.bind (upholds_attempt next)
      intro q
      apply (upholds_jointTick stable q result).bind
      rintro ⟨result, goOn⟩
      cases goOn with
      | true => exact ih result
      | false => exact keeps_pure result

theorem upholds_ensureJointStart (result : ExecutionResult K) :
    Upholds safe inv profile (ensureJointStart result) := by
  apply (upholds_getState stable).bind
  intro start
  split
  · exact (upholds_startJointImpedance stable _ _).bind fun _ =>
      (upholds_getState stable).bind fun _ => keeps_pure _
  · exact keeps_pure _

theorem upholds_executeJointChunk (chunk : JointChunk K) (raiseOnStop : Bool) :
    Upholds safe inv profile (executeJointChunk chunk raiseOnStop) := by
  apply (upholds_checkLease stable).bind
  intro _
  apply (upholds_cancelIsSet stable .entry).bind
  intro cancelled
  split
  · exact upholds_abortAtEntry stable raiseOnStop
  · apply Keeps.bind (upholds_verifyChunkProfile _ _)
    intro result
    apply (upholds_ensureJointStart stable result).bind
    rintro ⟨start, result⟩
    apply Keeps.bind (upholds_resetFilter start)
    intro _
    apply upholds_get_bind
    intro robot _
    apply (upholds_perfCounter stable).bind
    intro _
    apply (upholds_jointTicks stable _ result).bind
    intro result
    exact (upholds_getState stable).bind fun _ => upholds_returnResult stable _ raiseOnStop

theorem upholds_moveJoint (qTarget : List K) (duration maxJointSpeed : Option K)
    (realtime : Bool) :
    Upholds safe inv profile (moveJoint qTarget duration maxJointSpeed realtime) := by
  apply (upholds_checkLease stable).bind
  intro _
  apply (upholds_getState stable).bind
  intro now
  apply Keeps.bind (upholds_attempt _)
  intro dur
  apply (upholds_startJointImpedance stable none realtime).bind
  intro _
  apply upholds_get_bind
  intro robot _
  exact upholds_executeJointChunk stable _ _

theorem upholds_servoCartesianDelta (translation rotation : Vec3 K) (duration : Option K)
    (frame : String) (gripper : Option (GripperCommand K)) :
    Upholds safe inv profile (servoCartesianDelta translation rotation duration frame gripper) := by
  apply (upholds_checkLease stable).bind
  intro _
  apply upholds_get_bind
  intro robot _
  apply (upholds_getState stable).bind
  intro state
  apply Keeps.bind (upholds_attempt _)
  intro target
  apply Keeps.bind (upholds_attempt _)
  intro wp
  exact upholds_executeCartesianChunk stable rfl _ _

theorem upholds_servoCartesianPose (pose : Pose K) (duration : K)
    (gripper : Option (GripperCommand K)) :
    Upholds safe inv profile (servoCartesianPose pose duration gripper) := by
  apply upholds_get_bind
  intro robot _
  apply Keeps.bind (upholds_attempt _)
  intro wp
  exact upholds_executeCartesianChunk stable rfl _ _

theorem upholds_awaitGripper (cmd : GripperCommand K) (timeout t0 initial : K) (polls : Nat) :
    ∀ prevWidth moved state,
      Upholds safe inv profile
        (awaitGripper cmd timeout t0 initial polls prevWidth moved state) := by
  induction polls with
  | zero => exact fun _ _ _ => keeps_pure _
  | succ polls ih =>
      intro prevWidth moved state
      apply (upholds_wallClock stable).bind
      intro now
      split
      · apply (upholds_cancelIsSet stable .gripperWait).bind
        intro cancelled
        split
        · exact keeps_pure _
        · apply (upholds_getState stable).bind
          intro state
          apply (upholds_wallClock stable).bind
          intro now
          dsimp only
          split
          · exact keeps_pure _
          · exact ih _ _ _
      · exact keeps_pure _

theorem upholds_commandGripper (cmd : GripperCommand K) (wait : Bool) (timeout : K) :
    Upholds safe inv profile (commandGripper cmd wait timeout) := by
  apply (upholds_checkLease stable).bind
  intro _
  apply (upholds_getState stable).bind
  intro initial
  apply (upholds_backend stable (by trivial)).bind
  intro _
  split
  · apply (upholds_wallClock stable).bind
    intro t0
    apply (upholds_getState stable).bind
    intro state
    exact (upholds_awaitGripper stable cmd timeout t0 _ _ none false state).bind
      fun _ => keeps_pure _
  · exact keeps_pure _

theorem upholds_home (q : Option (List K)) (maxJointSpeed duration : Option K) :
    Upholds safe inv profile (home q maxJointSpeed duration) := by
  apply (upholds_checkLease stable).bind
  intro _
  apply upholds_get_bind
  intro robot _
  apply Keeps.bind
  · apply Keeps.tryCatch
    · unfold vendorHome
      split
      · exact keeps_throw _
      · exact upholds_backend stable (by trivial)
    · intro e
      split
      · exact (upholds_moveJoint stable _ _ _ _).bind fun _ => keeps_pure _
      · exact keeps_throw e
  · intro _
    unfold homeGripper
    split
    · exact keeps_pure _
    · exact (upholds_commandGripper stable _ _ _).bind fun _ => keeps_pure _

theorem upholds_liftStage (liftM maxTcpSpeed : K) :
    Upholds safe inv profile (liftStage liftM maxTcpSpeed) := by
  apply Keeps.tryCatch
  · apply (upholds_getState stable).bind
    intro state
    apply upholds_get_bind
    intro robot _
    exact (upholds_executeCartesianChunk stable rfl _ _).bind fun _ => keeps_pure _
  · exact fun e => keeps_pure _

theorem upholds_gripperStage (openGripperWidth : Option K) (log : Log K) :
    Upholds safe inv profile (gripperStage openGripperWidth log) := by
  apply upholds_get_bind
  intro robot _
  split
  · exact keeps_pure _
  · apply Keeps.tryCatch
    · exact (upholds_commandGripper stable _ _ _).bind fun _ => keeps_pure _
    · exact fun e => keeps_pure _

theorem upholds_goHomeSafe (qHome : Option (List K)) (liftM : K) (openGripperWidth : Option K)
    (maxTcpSpeed maxJointSpeed : K) :
    Upholds safe inv profile
      (goHomeSafe qHome liftM openGripperWidth maxTcpSpeed maxJointSpeed) := by
  have forbids (contactAbort : Bool) :
      Upholds safe inv profile (homeForbidden contactAbort : RobotM K Bool) := by
    unfold homeForbidden
    split
    · exact keeps_pure _
    · exact upholds_cancelIsSet stable .guard
  apply (upholds_checkLease stable).bind
  intro _
  apply (upholds_liftStage stable liftM maxTcpSpeed).bind
  rintro ⟨log, contactAbort⟩
  apply (upholds_gripperStage stable openGripperWidth log).bind
  intro log
  apply (forbids contactAbort).bind
  intro forbidden
  split
  · exact (upholds_cancelIsSet stable .guardReason).bind fun _ =>
      (upholds_getState stable).bind fun _ => keeps_pure _
  · apply upholds_get_bind
    intro robot _
    exact (upholds_moveJoint stable _ _ _ _).bind fun _ => keeps_pure _

/-- Every call but a chunk with an allowance and a change of profile. -/
def FacadeCall.Keeping (profile : SafetyProfile K) : FacadeCall K → Prop
  | .executeCartesianChunk chunk _ _ => grantedAllowance profile chunk = none
  | .setSafetyProfile _ => False
  | _ => True

theorem upholds_facadeCall {call : FacadeCall K} (keeping : call.Keeping profile) :
    Upholds safe inv profile call.run := by
  have discarded {α : Type} {x : RobotM K α} (kept : Upholds safe inv profile x) :
      Upholds safe inv profile (discard x) := kept.bind fun _ => keeps_pure _
  cases call with
  | startCartesianImpedance impedance realtime forceControl nullspaceQ =>
      exact upholds_startCartesianImpedance stable impedance realtime forceControl nullspaceQ
  | startJointImpedance jointImpedance realtime =>
      exact upholds_startJointImpedance stable jointImpedance realtime
  | servoCartesianDelta translation rotation duration frame gripper =>
      exact discarded (upholds_servoCartesianDelta stable _ _ _ _ _)
  | servoCartesianPose pose duration gripper =>
      exact discarded (upholds_servoCartesianPose stable _ _ _)
  | executeCartesianChunk chunk raiseOnStop record =>
      exact discarded (upholds_executeCartesianChunk stable keeping _ _)
  | executeJointChunk chunk raiseOnStop =>
      exact discarded (upholds_executeJointChunk stable chunk raiseOnStop)
  | moveJoint qTarget duration maxJointSpeed realtime =>
      exact discarded (upholds_moveJoint stable _ _ _ _)
  | home q maxJointSpeed duration => exact upholds_home stable q maxJointSpeed duration
  | goHomeSafe qHome liftM openGripperWidth maxTcpSpeed maxJointSpeed =>
      exact discarded (upholds_goHomeSafe stable _ _ _ _ _)
  | zeroFtSensor =>
      exact (upholds_checkLease stable).bind fun _ => upholds_backend stable (by trivial)
  | stop => exact Keeps.bind (upholds_perform stable (by trivial)) fun _ =>
      upholds_backend stable (by trivial)
  | setSafetyProfile name => exact absurd keeping id

end Upholding

/-! ### A chunk with a granted allowance -/

section Granted

variable {profile : SafetyProfile K} {robot : Robot K} {states : Set (Firmware K)}

abbrev anyFirmware (_ : Firmware K) : Prop := True

theorem arm_raised_or_relaxed (wrenchCap : Wrench K)
    (holds : OnFirmware (Firmware.ArmedUnder profile) profile robot states) :
    wp (firmwareMonitor anyFirmware) (armWrenchLimit true wrenchCap)
      (fun out robot' states' => OnFirmware (fun f => f.profile = profile) profile robot' states' ∧
        ∀ e, out = .error e → OnFirmware (Firmware.ArmedUnder profile) profile robot' states')
      robot states := by
  unfold armWrenchLimit
  rw [if_pos rfl, wp_backend]
  refine ⟨fun _ _ => trivial, ?_⟩
  intro answer _
  refine ⟨⟨holds.1, ?_⟩, ?_⟩
  · rintro f' ⟨f, member, calls, step, _⟩
    have runs : f.Runs (FlexivRdkBackend.setContactWrenchLimit wrenchCap) answer calls f' := step
    exact runs.profile_kept.trans (holds.2 f member).1
  · rintro e rfl
    refine ⟨holds.1, ?_⟩
    rintro f' ⟨f, member, calls, step, _⟩
    have runs : f.Runs (FlexivRdkBackend.setContactWrenchLimit wrenchCap) (.error e) calls f' :=
      step
    obtain ⟨same, armed⟩ := holds.2 f member
    exact ⟨runs.profile_kept.trans same, (Firmware.setContactWrenchLimit_raised runs).armed armed⟩

theorem restore_arms (run : ChunkRun K)
    (holds : OnFirmware (fun f => f.profile = profile) profile robot states) :
    wp (firmwareMonitor anyFirmware) (restoreWrenchLimit true run)
      (fun _ robot' states' => OnFirmware (Firmware.ArmedUnder profile) profile robot' states')
      robot states := by
  unfold restoreWrenchLimit
  rw [if_pos rfl, wp_bind, wp_get, afterStep_ok, wp_bind, wp_op]
  refine ⟨fun _ _ => trivial, ?_⟩
  intro answer _
  have sent : OnFirmware (Firmware.ArmedUnder profile) profile robot
      ((firmwareMonitor anyFirmware).observe states
        ⟨.write (.setContactWrenchLimit robot.profile.maxContactWrench), answer⟩) := by
    refine ⟨holds.1, ?_⟩
    rintro f' ⟨f, member, calls, step, meets⟩
    have same := holds.2 f member
    have runs : f.Runs (FlexivRdkBackend.setContactWrenchLimit f.profile.maxContactWrench) answer
        calls f' := by
      rw [same, ← holds.1]
      exact step
    exact ⟨runs.profile_kept.trans same,
      Firmware.setContactWrenchLimit_armed runs meets.unrefused⟩
  cases answer with
  | ok _ => exact sent
  | error e => exact sent

theorem relaxedTicks_arm (chunk : CartesianChunk K) (wrenchCap : Wrench K) (t0 : K)
    (setpoints : List (CartesianSetpoint K)) (run : ChunkRun K)
    (holds : OnFirmware (fun f => f.profile = profile) profile robot states) :
    wp (firmwareMonitor anyFirmware) (guardedTicks chunk wrenchCap true t0 setpoints run)
      (fun _ robot' states' => OnFirmware (Firmware.ArmedUnder profile) profile robot' states')
      robot states := by
  -- Whatever the ticks raise is raised again after the restore.
  have handed (e : Exc) {robot : Robot K} {states : Set (Firmware K)}
      (holds : OnFirmware (fun f => f.profile = profile) profile robot states) :
      wp (firmwareMonitor anyFirmware) (do
        let _ ← restoreWrenchLimit true run
        throw e : RobotM K (ChunkRun K))
        (fun _ robot' states' => OnFirmware (Firmware.ArmedUnder profile) profile robot' states')
        robot states := by
    rw [wp_bind]
    apply wp_mono (restore_arms run holds)
    intro out robot' states' armed
    cases out with
    | ok _ => exact armed
    | error _ => exact armed
  unfold guardedTicks
  rw [wp_bind, wp_tryCatch]
  apply wp_mono (upholds_ticked (stable_profile profile) chunk wrenchCap t0 setpoints run robot
    states holds)
  intro out robot' states' between
  cases out with
  | error e => exact handed e between
  | ok outcome =>
      cases outcome with
      | ok run => exact restore_arms run between
      | error e => exact handed e between

/-- However a chunk ends, the guard is as it was before. -/
theorem upholds_granted {chunk : CartesianChunk K} (raiseOnStop record : Bool) :
    Upholds anyFirmware (Firmware.ArmedUnder profile) profile
      (executeCartesianChunk chunk raiseOnStop record) := by
  have still : Firmware.Stable anyFirmware (Firmware.ArmedUnder profile) profile :=
    stable_armed (fun _ _ => trivial) profile
  cases granted : (grantedAllowance profile chunk).isSome with
  | false =>
      rw [Option.isSome_eq_false_iff, Option.isNone_iff_eq_none] at granted
      exact upholds_executeCartesianChunk still granted raiseOnStop record
  | true =>
      apply upholds_executeCartesianChunk_of still granted
      intro resolved start wrenchCap setpoints run robot states holds
      unfold armedRun
      rw [wp_bind]
      apply wp_mono (arm_raised_or_relaxed wrenchCap holds)
      rintro out robot₁ states₁ ⟨relaxed, raised⟩
      cases out with
      | error e => exact raised e rfl
      | ok _ =>
          have timed := upholds_perfCounter (stable_profile profile) robot₁ states₁ relaxed
          unfold perfCounter at timed ⊢
          rw [wp_op] at timed
          rw [afterStep_ok, wp_bind, wp_op]
          refine ⟨timed.1, ?_⟩
          intro t0 admitted
          have relaxed := timed.2 t0 admitted
          rw [afterStep_ok, wp_bind]
          apply wp_mono (relaxedTicks_arm resolved wrenchCap t0 setpoints run relaxed)
          intro out robot₂ states₂ armed
          cases out with
          | error e => exact armed
          | ok run =>
              have rest : Upholds anyFirmware (Firmware.ArmedUnder profile) profile (do
                  let final ← getState
                  returnResult (run.report start final) raiseOnStop) :=
                (upholds_getState still).bind fun _ => upholds_returnResult still _ raiseOnStop
              exact rest robot₂ states₂ armed

end Granted

/-! ### Every sequence of calls -/

def Announced (robot : Robot K) (states : Set (Firmware K)) : Prop :=
  ∀ f ∈ states, f.ArmedUnder robot.profile

section Calls

variable {safe : Firmware K → Prop} {robot : Robot K} {states : Set (Firmware K)}

theorem Upholds.announced {x : RobotM K Unit}
    (upheld : Upholds safe (Firmware.ArmedUnder robot.profile) robot.profile x)
    (holds : Announced robot states) :
    wp (firmwareMonitor safe) x (fun _ robot' states' => Announced robot' states')
      robot states := by
  apply wp_mono (upheld robot states ⟨rfl, holds⟩)
  rintro out robot' states' ⟨same, armed⟩ f member
  rw [same]
  exact armed f member

theorem setSafetyProfile_announced (armed_safe : ∀ f : Firmware K, f.Armed → safe f)
    (name : String) (holds : Announced robot states) :
    wp (firmwareMonitor safe) (setSafetyProfile name)
      (fun _ robot' states' => Announced robot' states') robot states := by
  have loads : Upholds safe (Firmware.ArmedUnder robot.profile) robot.profile
      (perform (.loadSafetyProfile name)) :=
    upholds_perform (stable_armed armed_safe robot.profile) (by trivial)
  obtain ⟨allowed, loaded⟩ := loads robot states ⟨rfl, holds⟩
  unfold setSafetyProfile
  rw [wp_bind, wp_op]
  refine ⟨allowed, ?_⟩
  intro answer admitted
  obtain ⟨_, held⟩ := loaded answer admitted
  rw [afterStep_ok, wp_bind, wp_attempt]
  cases answer with
  | error e => exact held
  | ok profile =>
      rw [afterStep_ok, wp_bind, wp_modify, afterStep_ok, wp_op]
      refine ⟨fun f member => armed_safe f (held f member).2, ?_⟩
      rintro swapped _ f' ⟨f, member, calls, step, meets⟩
      exact step.swap_armed (held f member).2 meets

/-- A call without an allowance, and none that is armed on its way is unsafe. -/
theorem facadeCall_announced (armed_safe : ∀ f : Firmware K, f.Armed → safe f)
    {call : FacadeCall K} (calm : ¬ call.CarriesAllowance robot.profile)
    (holds : Announced robot states) :
    wp (firmwareMonitor safe) call.run (fun _ robot' states' => Announced robot' states')
      robot states := by
  have stable := stable_armed armed_safe robot.profile
  cases call with
  | setSafetyProfile name => exact setSafetyProfile_announced armed_safe name holds
  | executeCartesianChunk chunk raiseOnStop record =>
      have ungranted : grantedAllowance robot.profile chunk = none :=
        Option.not_isSome_iff_eq_none.mp calm
      have keeping : (FacadeCall.executeCartesianChunk chunk raiseOnStop record).Keeping
          robot.profile := ungranted
      exact (upholds_facadeCall stable keeping).announced holds
  | _ => exact (upholds_facadeCall stable (by trivial)).announced holds

theorem facadeCall_ends (call : FacadeCall K) (holds : Announced robot states) :
    wp (firmwareMonitor anyFirmware) call.run (fun _ robot' states' => Announced robot' states')
      robot states := by
  by_cases carries : call.CarriesAllowance robot.profile
  · cases call with
    | executeCartesianChunk chunk raiseOnStop record =>
        have upheld : Upholds anyFirmware (Firmware.ArmedUnder robot.profile) robot.profile
            (discard (executeCartesianChunk chunk raiseOnStop record)) :=
          (upholds_granted raiseOnStop record).bind fun _ => keeps_pure _
        exact upheld.announced holds
    | _ => exact absurd carries id
  · exact facadeCall_announced (fun _ _ => trivial) carries holds

end Calls

theorem FirmwareRun.announced {robot robot' : Robot K} {f f' : Firmware K}
    {calls : List (FacadeCall K)}
    (run : FirmwareRun Firmware.Meets robot f calls robot' f')
    (start : f.ArmedUnder robot.profile) : f'.ArmedUnder robot'.profile := by
  induction run with
  | start => exact start
  | @call calls call robot' robot'' f' f'' ops out run ran served ih =>
      have before : Announced robot' {f'} := by
        rintro g rfl
        exact ih
      obtain ⟨states, member, announced⟩ :=
        served.ended (Set.mem_singleton f') (facadeCall_ends call before) ran
      exact announced f'' member

/-- While no profile with another limit comes in a Cartesian mode and the robot refuses no
impedance and no limit that matters, the limit in the firmware follows the profile. -/
theorem guard_follows_profile (robot : Robot K) (f : Firmware K)
    (announced : f.profile = robot.profile) (armed : f.Armed) :
    GuardFollows Firmware.Meets robot f := by
  intro calls robot' f' run
  have between : f'.ArmedUnder robot'.profile := run.announced ⟨announced, armed⟩
  refine ⟨between, ?_⟩
  intro call ops left f'' calm ran served
  have before : Announced robot' {f'} := by
    rintro g rfl
    exact between
  have kept : wp (firmwareMonitor Firmware.Armed) call.run
      (fun _ _ states' => ∀ g ∈ states', g.Armed) robot' {f'} := by
    apply wp_mono (facadeCall_announced (fun _ => id) calm before)
    intro out robot'' states'' holds g member
    exact (holds g member).2
  exact served.stays_safe (Set.mem_singleton f') kept ran

noncomputable def connected : Firmware ℝ where
  backend := {}
  limit := none
  profile := tabletopRobot.profile

noncomputable def plainStart : BackendCall ℝ := tabletopRobot.cartesianImpedance

noncomputable def plainStartSent : List (Call (rdkEffects ℝ)) :=
  [⟨.command (.switchMode .nrtCartesianMotionForce), .ok ()⟩,
    ⟨.command (.setCartesianImpedance ({} : ImpedanceParams ℝ).stiffness
      ({} : ImpedanceParams ℝ).dampingRatio), .ok ()⟩,
    ⟨.command (.setMaxContactWrench tabletopRobot.profile.maxContactWrench), .ok ()⟩,
    ⟨.command (.setNullSpacePosture tabletopRobot.cfg.qHome), .ok ()⟩]

noncomputable def guarded : Firmware ℝ where
  backend := { mode := .nrtCartesianMotionForce }
  limit := some tabletopRobot.profile.maxContactWrench
  profile := tabletopRobot.profile

theorem plainStart_run
    {meets : Firmware ℝ → Call (effects ℝ) → List (Call (rdkEffects ℝ)) → Prop}
    (met : meets connected ⟨.write plainStart, .ok ()⟩ plainStartSent) :
    FirmwareRun meets tabletopRobot connected [.startCartesianImpedance none false none none]
      tabletopRobot guarded := by
  have started : Trace ((FacadeCall.startCartesianImpedance none false none none :
      FacadeCall ℝ).run tabletopRobot) [⟨.write plainStart, .ok ()⟩]
      (.done (.ok (), tabletopRobot)) := .cons (.nil _)
  have sent : connected.Step ⟨.write plainStart, .ok ()⟩ plainStartSent guarded :=
    ⟨{ mode := .nrtCartesianMotionForce }, .cons (.cons (.cons (.cons (.nil _)))), rfl⟩
  exact FirmwareRun.call .start started (.cons ⟨plainStartSent, sent, met⟩ (.nil _))

theorem guard_follows_profile_started :
    GuardFollows Firmware.Meets tabletopRobot connected ∧
      FirmwareRun Firmware.Meets tabletopRobot connected
        [.startCartesianImpedance none false none none] tabletopRobot guarded := by
  constructor
  · apply guard_follows_profile tabletopRobot connected rfl
    intro impossible
    cases impossible
  · apply plainStart_run
    constructor
    · intro profile answer impossible
      cases impossible
    · intro command refused
      cases refused

noncomputable def rlConservative : SafetyProfile ℝ where
  name := "rl_conservative"
  wsX := (Scalar.ofRat (35 / 100), Scalar.ofRat (65 / 100))
  wsY := (Scalar.ofRat (-25 / 100), Scalar.ofRat (25 / 100))
  wsZ := (Scalar.ofRat (10 / 100), Scalar.ofRat (50 / 100))
  maxLinearSpeed := Scalar.ofRat (15 / 100)
  maxAngularSpeed := Scalar.ofRat (40 / 100)
  maxPoseJumpLinear := Scalar.ofRat (2 / 100)
  maxPoseJumpAngular := Scalar.ofRat (10 / 100)
  jointMarginRad := Scalar.ofRat (12 / 100)
  maxJointSpeedScale := Scalar.ofRat (20 / 100)
  maxContactWrench := fun axis => if axis.val < 3 then Scalar.ofNat 25 else Scalar.ofNat 3
  commandTimeoutMs := Scalar.ofNat 80

/-- The mode is started, the tighter profile is loaded, and the robot keeps the limit of the
profile before. -/
theorem loaded_profile_unguarded :
    ¬ GuardFollows (fun _ _ _ => True) tabletopRobot connected := by
  intro follows
  have loaded : Trace ((FacadeCall.setSafetyProfile "rl_conservative" : FacadeCall ℝ).run
      tabletopRobot) [⟨.loadSafetyProfile "rl_conservative", .ok rlConservative⟩,
        ⟨.setSafetyProfile rlConservative, ()⟩]
      (.done (.ok (), tabletopRobot.withProfile rlConservative)) := .cons (.cons (.nil _))
  have swapped : FirmwareRun (fun _ _ _ => True) tabletopRobot connected
      ([.startCartesianImpedance none false none none] ++ [.setSafetyProfile "rl_conservative"])
      (tabletopRobot.withProfile rlConservative) { guarded with profile := rlConservative } :=
    .call (plainStart_run trivial) loaded
      (.cons ⟨[], ⟨rfl, rfl⟩, trivial⟩ (.cons ⟨[], ⟨rfl, rfl⟩, trivial⟩ (.nil _)))
  have armed := (follows _ _ _ swapped).1.2 rfl
  have along_x : some (tabletopRobot.profile.maxContactWrench 0) =
      some (rlConservative.maxContactWrench 0) :=
    congrArg (Option.map fun wrench : Wrench ℝ => wrench 0) armed
  norm_num [tabletopRobot, Robot.init, tabletop, rlConservative] at along_x

end FlexivControl
