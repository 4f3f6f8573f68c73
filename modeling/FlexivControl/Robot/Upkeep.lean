/-
Invariants of the facade and of what stands behind it, over whole calls.

A call reads, resets its filter to what it has read, and streams what the filter makes of
its targets; everything else it does goes past the filter. What those steps keep, every
method keeps, and with it every sequence of calls.
-/

import FlexivControl.Library.Environment
import FlexivControl.Library.Keeping
import FlexivControl.Robot.Allowance
import FlexivControl.Robot.Session

namespace FlexivControl

open Script

variable {K : Type} [Scalar K] {σ : Type}

def Op.IsStreamless : Op K → Prop
  | .write (.streamCartesian _ _) => False
  | _ => True

/-- What each step of the facade has to keep. The states it may read are `sane`. -/
structure Upkeep (m : Monitor (effects K) σ) (inv : Robot K → σ → Prop)
    (sane : RobotState K → Prop) : Prop where
  allowed : ∀ robot s op, inv robot s → m.allows s op
  unstreamed : ∀ robot s (op : Op K) r, op.IsStreamless → inv robot s → m.admits s ⟨op, r⟩ →
    inv robot (m.observe s ⟨op, r⟩)
  reads : ∀ robot s state, inv robot s → m.admits s ⟨.readState, .ok state⟩ → sane state
  resets : ∀ robot s state, inv robot s → sane state →
    inv { robot with filter := robot.filter.reset (some state) } s
  streams : ∀ (robot : Robot K) s target state cap sr f pose wrench answer, inv robot s →
    sane state → robot.filter.filterCartesian target state cap = (sr, f) → sr.pose = some pose →
    m.admits s ⟨.write (.streamCartesian pose wrench), answer⟩ →
    inv { robot with filter := f } (m.observe s ⟨.write (.streamCartesian pose wrench), answer⟩)
  joints : ∀ (robot : Robot K) s q state sr f, inv robot s →
    robot.filter.filterJoint q state = .ok (sr, f) → inv { robot with filter := f } s
  swaps : ∀ robot s name profile, inv robot s →
    m.admits s ⟨.loadSafetyProfile name, .ok profile⟩ →
    inv (robot.withProfile profile) (m.observe s ⟨.loadSafetyProfile name, .ok profile⟩)

theorem Op.IsGripping.unstreamed {op : Op K} (gripping : op.IsGripping) : op.IsStreamless := by
  cases op with
  | write call =>
      cases call with
      | moveGripper cmd => trivial
      | _ => exact absurd gripping id
  | _ => trivial

section Methods

variable {m : Monitor (effects K) σ} {inv : Robot K → σ → Prop} {sane : RobotState K → Prop}
  {α : Type}

theorem keeps_attempt (result : Except Exc α) : Keeps m inv (attempt result) := by
  cases result with
  | ok a => exact keeps_pure a
  | error e => exact keeps_throw e

theorem keeps_verifyChunkProfile (requested : String) (result : ExecutionResult K) :
    Keeps m inv (verifyChunkProfile requested result) := by
  apply keeps_get_bind
  intro robot s holds
  dsimp only
  split
  · exact holds
  · exact holds

theorem keeps_fields {f : Robot K → RobotM K α} (rest : ∀ robot, Keeps m inv (f robot)) :
    Keeps m inv (get >>= f) :=
  keeps_get_bind fun robot s holds => rest robot robot s holds

variable (up : Upkeep m inv sane)

include up

theorem keeps_op {op : Op K} (unstreamed : op.IsStreamless) : Keeps m inv (perform op) :=
  keeps_perform (fun robot s holds => up.allowed robot s op holds)
    fun robot s r holds admitted => up.unstreamed robot s op r unstreamed holds admitted

theorem keeps_backend {call : BackendCall K} (unstreamed : (Op.write call).IsStreamless) :
    Keeps m inv (backend call) := by
  have performed : Keeps m inv (perform (.write call)) := keeps_op up unstreamed
  exact performed.bind keeps_attempt

theorem keeps_of_gripping {x : RobotM K α} (left : LeavesMemory x)
    (gripping : Uses (S := effects K) Op.IsGripping x) : Keeps m inv x :=
  left.keeps_admitted gripping (fun robot s op _ holds => up.allowed robot s op holds)
    fun robot s op r grips holds admitted =>
      up.unstreamed robot s op r grips.unstreamed holds admitted

theorem keeps_checkLease : Keeps m inv (checkLease : RobotM K Unit) :=
  keeps_of_gripping up leavesMemory_checkLease gripping_checkLease

theorem keeps_getState : KeepsTo m inv sane (getState : RobotM K (RobotState K)) := by
  intro robot s holds
  unfold getState
  rw [wp_bind, wp_readState]
  refine ⟨up.allowed robot s _ holds, ?_⟩
  intro answer admitted
  have kept : inv robot (m.observe s ⟨.readState, answer⟩) :=
    up.unstreamed robot s .readState answer trivial holds admitted
  cases answer with
  | error e =>
      refine ⟨kept, ?_⟩
      intro state impossible
      cases impossible
  | ok state =>
      have known : sane state := up.reads robot s state holds admitted
      rw [afterStep_ok, wp_bind, wp_op]
      refine ⟨up.allowed robot _ _ kept, ?_⟩
      intro published admitted'
      refine ⟨up.unstreamed robot _ (.publishState state) published trivial kept admitted', ?_⟩
      intro state' same
      cases same
      exact known

theorem keeps_inFault : Keeps m inv (inFault : RobotM K Bool) :=
  Keeps.bind (keeps_op up (by trivial)) keeps_attempt

theorem keeps_cancelIsSet (site : CancelSite) : Keeps m inv (cancelIsSet site : RobotM K Bool) :=
  keeps_op up (by trivial)

theorem keeps_halt (a : α) : Keeps m inv (do backend .stop; pure a : RobotM K α) :=
  (keeps_backend up (by trivial)).bind fun _ => keeps_pure a

theorem keeps_cancelTick : Keeps m inv (cancelTick : RobotM K Unit) :=
  Keeps.bind (keeps_op up (by trivial)) fun _ => keeps_backend up (by trivial)

theorem keeps_returnResult (result : ExecutionResult K) (raiseOnStop : Bool) :
    Keeps m inv (returnResult result raiseOnStop) := by
  apply Keeps.bind (keeps_op up (by trivial))
  intro _
  split
  · exact keeps_throw _
  · exact keeps_pure _

theorem keeps_abortAtEntry (raiseOnStop : Bool) :
    Keeps m inv (abortAtEntry raiseOnStop : RobotM K (ExecutionResult K)) :=
  Keeps.bind (keeps_op up (by trivial)) fun _ =>
    (keeps_getState up).keeps_bind fun _ _ => keeps_returnResult up _ raiseOnStop

theorem keeps_resetFilter {state : RobotState K} (known : sane state) :
    Keeps m inv (resetFilter state) :=
  keeps_modify fun robot s holds => up.resets robot s state holds known

theorem keeps_startCartesianImpedance (impedance : Option (ImpedanceParams K)) (realtime : Bool)
    (forceControl : Option (ForceControlParams K)) (nullspaceQ : Option (List K)) :
    Keeps m inv (startCartesianImpedance impedance realtime forceControl nullspaceQ) :=
  keeps_fields fun _ => keeps_backend up (by trivial)

theorem keeps_ensureCartesianStart (chunk : CartesianChunk K) (result : ExecutionResult K) :
    KeepsTo m inv (fun begun => sane begun.1) (ensureCartesianStart chunk result) := by
  apply (keeps_getState up).bind
  intro start known
  split
  · exact keepsTo_pure known
  · exact (keeps_startCartesianImpedance up _ _ _ _).to.bind fun _ _ =>
      (keeps_getState up).bind fun _ later => keepsTo_pure later

theorem keeps_afterStream (chunk : CartesianChunk K) (t0 : K) (sp : CartesianSetpoint K)
    (state : RobotState K) (pose : Pose K) (run : ChunkRun K) :
    Keeps m inv (afterStream chunk t0 sp state pose run) :=
  keeps_of_gripping up (leavesMemory_afterStream _ _ _ _ _ _) (gripping_afterStream _ _ _ _ _ _)

theorem keeps_cartesianTick (chunk : CartesianChunk K) (wrenchCap : Wrench K) (t0 : K)
    (sp : CartesianSetpoint K) (run : ChunkRun K) :
    Keeps m inv (cartesianTick chunk wrenchCap t0 sp run) := by
  unfold cartesianTick
  dsimp only
  apply (keeps_cancelIsSet up .tick).bind
  intro cancelled
  split
  · exact (keeps_cancelTick up).bind fun _ => keeps_pure _
  · apply (keeps_getState up).keeps_bind
    intro state known
    apply (keeps_inFault up).bind
    intro faulted
    split
    · exact keeps_halt up _
    · split
      · exact keeps_halt up _
      · intro robot s holds
        rw [wp_bind, wp_filterCartesian, afterStep_ok]
        have cases := robot.filter.filterCartesian_cases sp.pose state (some wrenchCap)
        split
        · rename_i pose _ found
          rw [wp_bind, wp_backend]
          refine ⟨up.allowed robot s _ holds, ?_⟩
          intro answer admitted
          have kept := up.streams robot s sp.pose state (some wrenchCap) _ _ pose
            (chunkWrench chunk) answer holds known rfl found admitted
          cases answer with
          | error e => exact kept
          | ok _ =>
              exact ((keeps_afterStream up chunk t0 sp state pose _).bind fun _ => keeps_pure _) _ _
                kept
        · rename_i refused
          rcases cases with ⟨reason, rejected⟩ | ⟨draft, _, _, passed⟩
          · rw [rejected]
            exact keeps_halt up _ robot s holds
          · dsimp only at passed
            rw [passed] at refused
            exact absurd rfl (refused _ rfl)

theorem keeps_cartesianTicks (chunk : CartesianChunk K) (wrenchCap : Wrench K) (t0 : K)
    (setpoints : List (CartesianSetpoint K)) :
    ∀ run, Keeps m inv (cartesianTicks chunk wrenchCap t0 setpoints run) := by
  induction setpoints with
  | nil => exact fun run => keeps_pure run
  | cons sp rest ih =>
      intro run
      apply (keeps_cartesianTick up chunk wrenchCap t0 sp run).bind
      intro ticked
      obtain ⟨run, goOn⟩ := ticked
      cases goOn with
      | true => exact ih run
      | false => exact keeps_pure run

theorem keeps_resolvePending (chunk : CartesianChunk K) (run : ChunkRun K) :
    Keeps m inv (resolvePending chunk run) := by
  unfold resolvePending
  split
  · exact keeps_pure _
  · dsimp only
    split
    · apply (keeps_getState up).keeps_bind
      intro state _
      exact keeps_of_gripping up (leavesMemory_tryFireClose _ _ _ _)
        (gripping_tryFireClose _ _ _ _)
    · split
      · exact keeps_pure _
      · exact keeps_pure _

theorem keeps_restoreWrenchLimit (relaxed : Bool) (run : ChunkRun K) :
    Keeps m inv (restoreWrenchLimit relaxed run) := by
  unfold restoreWrenchLimit
  split
  · apply keeps_fields
    intro robot
    apply Keeps.bind (keeps_op up (by trivial))
    intro answer
    cases answer with
    | ok _ => exact keeps_pure _
    | error _ => exact keeps_pure _
  · exact keeps_pure _

theorem keeps_guardedTicks (chunk : CartesianChunk K) (wrenchCap : Wrench K) (relaxed : Bool)
    (t0 : K) (setpoints : List (CartesianSetpoint K)) (run : ChunkRun K) :
    Keeps m inv (guardedTicks chunk wrenchCap relaxed t0 setpoints run) := by
  apply Keeps.bind
  · apply Keeps.tryCatch
    · exact (keeps_cartesianTicks up chunk wrenchCap t0 setpoints run).bind fun run =>
        (keeps_resolvePending up chunk run).bind fun _ => keeps_pure _
    · exact fun e => keeps_pure _
  · intro outcome
    cases outcome with
    | ok run => exact keeps_restoreWrenchLimit up relaxed run
    | error e => exact (keeps_restoreWrenchLimit up relaxed run).bind fun _ => keeps_throw e

theorem keeps_runCartesianChunk (chunk : CartesianChunk K) (raiseOnStop record : Bool) :
    Keeps m inv (runCartesianChunk chunk raiseOnStop record) := by
  apply Keeps.bind (keeps_verifyChunkProfile _ _)
  intro result
  apply (keeps_ensureCartesianStart up chunk result).keeps_bind
  intro begun known
  obtain ⟨start, result⟩ := begun
  apply Keeps.bind (keeps_resetFilter up known)
  intro _
  apply Keeps.bind (keeps_attempt _)
  intro resolved
  apply keeps_fields
  intro robot
  dsimp only
  have armed (relaxed : Bool) (cap : Wrench K) : Keeps m inv (armWrenchLimit relaxed cap) := by
    unfold armWrenchLimit
    split
    · exact keeps_backend up (by trivial)
    · exact keeps_pure _
  apply (armed _ _).bind
  intro _
  apply Keeps.bind (keeps_op up (by trivial))
  intro t0
  apply (keeps_guardedTicks up _ _ _ t0 _ _).bind
  intro run
  exact (keeps_getState up).keeps_bind fun _ _ => keeps_returnResult up _ raiseOnStop

theorem keeps_executeCartesianChunk (chunk : CartesianChunk K) (raiseOnStop record : Bool) :
    Keeps m inv (executeCartesianChunk chunk raiseOnStop record) := by
  apply (keeps_checkLease up).bind
  intro _
  apply (keeps_cancelIsSet up .entry).bind
  intro cancelled
  split
  · exact keeps_abortAtEntry up raiseOnStop
  · exact keeps_runCartesianChunk up chunk raiseOnStop record

theorem keeps_startJointImpedance (jointImpedance : Option (JointImpedanceParams K))
    (realtime : Bool) : Keeps m inv (startJointImpedance jointImpedance realtime) :=
  keeps_backend up (by trivial)

theorem keeps_filterJoint (q : List K) (state : RobotState K) :
    Keeps m inv (filterJoint q state) := by
  intro robot s holds
  unfold filterJoint
  rw [wp_bind, wp_get, afterStep_ok, wp_bind, wp_attempt]
  cases made : robot.filter.filterJoint q state with
  | error e => exact holds
  | ok out => exact up.joints robot s q state out.1 out.2 holds made

theorem keeps_jointTick (q : List K) (result : ExecutionResult K) :
    Keeps m inv (jointTick q result) := by
  unfold jointTick
  apply (keeps_cancelIsSet up .tick).bind
  intro cancelled
  split
  · exact (keeps_cancelTick up).bind fun _ => keeps_pure _
  · apply (keeps_getState up).keeps_bind
    intro state _
    apply (keeps_inFault up).bind
    intro faulted
    split
    · exact keeps_halt up _
    · apply keeps_fields
      intro robot
      split
      · exact keeps_halt up _
      · apply (keeps_filterJoint up q state).bind
        intro sr
        split
        · exact (keeps_backend up (by trivial)).bind fun _ => keeps_pure _
        · exact keeps_halt up _

theorem keeps_jointTicks (setpoints : List (Except Exc (List K))) :
    ∀ result, Keeps m inv (jointTicks setpoints result) := by
  induction setpoints with
  | nil => exact fun result => keeps_pure result
  | cons next rest ih =>
      intro result
      apply Keeps.bind (keeps_attempt next)
      intro q
      apply (keeps_jointTick up q result).bind
      intro ticked
      obtain ⟨result, goOn⟩ := ticked
      cases goOn with
      | true => exact ih result
      | false => exact keeps_pure result

theorem keeps_ensureJointStart (result : ExecutionResult K) :
    KeepsTo m inv (fun begun => sane begun.1) (ensureJointStart result) := by
  apply (keeps_getState up).bind
  intro start known
  split
  · exact (keeps_startJointImpedance up _ _).to.bind fun _ _ =>
      (keeps_getState up).bind fun _ later => keepsTo_pure later
  · exact keepsTo_pure known

theorem keeps_executeJointChunk (chunk : JointChunk K) (raiseOnStop : Bool) :
    Keeps m inv (executeJointChunk chunk raiseOnStop) := by
  apply (keeps_checkLease up).bind
  intro _
  apply (keeps_cancelIsSet up .entry).bind
  intro cancelled
  split
  · exact keeps_abortAtEntry up raiseOnStop
  · apply Keeps.bind (keeps_verifyChunkProfile _ _)
    intro result
    apply (keeps_ensureJointStart up result).keeps_bind
    intro begun known
    obtain ⟨start, result⟩ := begun
    apply Keeps.bind (keeps_resetFilter up known)
    intro _
    apply keeps_fields
    intro robot
    apply Keeps.bind (keeps_op up (by trivial))
    intro _
    apply (keeps_jointTicks up _ result).bind
    intro result
    exact (keeps_getState up).keeps_bind fun _ _ => keeps_returnResult up _ raiseOnStop

theorem keeps_moveJoint (qTarget : List K) (duration maxJointSpeed : Option K)
    (realtime : Bool) : Keeps m inv (moveJoint qTarget duration maxJointSpeed realtime) := by
  apply (keeps_checkLease up).bind
  intro _
  apply (keeps_getState up).keeps_bind
  intro now _
  apply Keeps.bind (keeps_attempt _)
  intro dur
  apply (keeps_startJointImpedance up none realtime).bind
  intro _
  exact keeps_fields fun robot => keeps_executeJointChunk up _ _

theorem keeps_servoCartesianDelta (translation rotation : Vec3 K) (duration : Option K)
    (frame : String) (gripper : Option (GripperCommand K)) :
    Keeps m inv (servoCartesianDelta translation rotation duration frame gripper) := by
  apply (keeps_checkLease up).bind
  intro _
  apply keeps_fields
  intro robot
  apply (keeps_getState up).keeps_bind
  intro state _
  apply Keeps.bind (keeps_attempt _)
  intro target
  apply Keeps.bind (keeps_attempt _)
  intro wp
  exact keeps_executeCartesianChunk up _ _ _

theorem keeps_servoCartesianPose (pose : Pose K) (duration : K)
    (gripper : Option (GripperCommand K)) :
    Keeps m inv (servoCartesianPose pose duration gripper) := by
  apply keeps_fields
  intro robot
  apply Keeps.bind (keeps_attempt _)
  intro wp
  exact keeps_executeCartesianChunk up _ _ _

theorem keeps_awaitGripper (cmd : GripperCommand K) (timeout t0 initial : K) (polls : Nat) :
    ∀ prevWidth moved state,
      Keeps m inv (awaitGripper cmd timeout t0 initial polls prevWidth moved state) := by
  induction polls with
  | zero => exact fun _ _ _ => keeps_pure _
  | succ polls ih =>
      intro prevWidth moved state
      apply Keeps.bind (keeps_op up (by trivial))
      intro now
      split
      · apply (keeps_cancelIsSet up .gripperWait).bind
        intro cancelled
        split
        · exact keeps_pure _
        · apply (keeps_getState up).keeps_bind
          intro state _
          apply Keeps.bind (keeps_op up (by trivial))
          intro now
          dsimp only
          split
          · exact keeps_pure _
          · exact ih _ _ _
      · exact keeps_pure _

theorem keeps_commandGripper (cmd : GripperCommand K) (wait : Bool) (timeout : K) :
    Keeps m inv (commandGripper cmd wait timeout) := by
  apply (keeps_checkLease up).bind
  intro _
  apply (keeps_getState up).keeps_bind
  intro initial _
  apply (keeps_backend up (by trivial)).bind
  intro _
  split
  · apply Keeps.bind (keeps_op up (by trivial))
    intro t0
    apply (keeps_getState up).keeps_bind
    intro state _
    exact (keeps_awaitGripper up cmd timeout t0 _ _ none false state).bind fun _ => keeps_pure _
  · exact keeps_pure _

theorem keeps_home (q : Option (List K)) (maxJointSpeed duration : Option K) :
    Keeps m inv (home q maxJointSpeed duration) := by
  apply (keeps_checkLease up).bind
  intro _
  apply keeps_fields
  intro robot
  apply Keeps.bind
  · apply Keeps.tryCatch
    · unfold vendorHome
      split
      · exact keeps_throw _
      · exact keeps_backend up (by trivial)
    · intro e
      split
      · exact (keeps_moveJoint up _ _ _ _).bind fun _ => keeps_pure _
      · exact keeps_throw e
  · intro _
    unfold homeGripper
    split
    · exact keeps_pure _
    · exact (keeps_commandGripper up _ _ _).bind fun _ => keeps_pure _

theorem keeps_liftStage (liftM maxTcpSpeed : K) : Keeps m inv (liftStage liftM maxTcpSpeed) := by
  apply Keeps.tryCatch
  · apply (keeps_getState up).keeps_bind
    intro state _
    apply keeps_fields
    intro robot
    exact (keeps_executeCartesianChunk up _ _ _).bind fun _ => keeps_pure _
  · exact fun e => keeps_pure _

theorem keeps_gripperStage (openGripperWidth : Option K) (log : Log K) :
    Keeps m inv (gripperStage openGripperWidth log) := by
  apply keeps_fields
  intro robot
  split
  · exact keeps_pure _
  · apply Keeps.tryCatch
    · exact (keeps_commandGripper up _ _ _).bind fun _ => keeps_pure _
    · exact fun e => keeps_pure _

theorem keeps_goHomeSafe (qHome : Option (List K)) (liftM : K) (openGripperWidth : Option K)
    (maxTcpSpeed maxJointSpeed : K) :
    Keeps m inv (goHomeSafe qHome liftM openGripperWidth maxTcpSpeed maxJointSpeed) := by
  have forbids (contactAbort : Bool) :
      Keeps m inv (homeForbidden contactAbort : RobotM K Bool) := by
    unfold homeForbidden
    split
    · exact keeps_pure _
    · exact keeps_cancelIsSet up .guard
  apply (keeps_checkLease up).bind
  intro _
  apply (keeps_liftStage up liftM maxTcpSpeed).bind
  intro lifted
  obtain ⟨log, contactAbort⟩ := lifted
  apply (keeps_gripperStage up openGripperWidth log).bind
  intro log
  apply (forbids contactAbort).bind
  intro forbidden
  split
  · exact (keeps_cancelIsSet up .guardReason).bind fun _ =>
      (keeps_getState up).keeps_bind fun _ _ => keeps_pure _
  · apply keeps_fields
    intro robot
    exact (keeps_moveJoint up _ _ _ _).bind fun _ => keeps_pure _

theorem keeps_setSafetyProfile (name : String) :
    Keeps m inv (setSafetyProfile name : RobotM K Unit) := by
  intro robot s holds
  unfold setSafetyProfile
  rw [wp_bind, wp_op]
  refine ⟨up.allowed robot s _ holds, ?_⟩
  intro answer admitted
  have kept := up.unstreamed robot s (.loadSafetyProfile name) answer trivial holds admitted
  rw [afterStep_ok, wp_bind, wp_attempt]
  cases answer with
  | error e => exact kept
  | ok profile =>
      have swapped := up.swaps robot s name profile holds admitted
      rw [afterStep_ok, wp_bind, wp_modify, afterStep_ok, wp_op]
      refine ⟨up.allowed _ _ _ swapped, ?_⟩
      intro told admitted'
      exact up.unstreamed _ _ (.setSafetyProfile profile) told trivial swapped admitted'

/-! ### Every call, and every sequence of calls -/

theorem keeps_facadeCall (call : FacadeCall K) : Keeps m inv call.run := by
  have discarded {β : Type} {x : RobotM K β} (kept : Keeps m inv x) : Keeps m inv (discard x) :=
    kept.bind fun _ => keeps_pure _
  cases call with
  | startCartesianImpedance impedance realtime forceControl nullspaceQ =>
      exact keeps_startCartesianImpedance up impedance realtime forceControl nullspaceQ
  | startJointImpedance jointImpedance realtime =>
      exact keeps_startJointImpedance up jointImpedance realtime
  | servoCartesianDelta translation rotation duration frame gripper =>
      exact discarded (keeps_servoCartesianDelta up _ _ _ _ _)
  | servoCartesianPose pose duration gripper =>
      exact discarded (keeps_servoCartesianPose up _ _ _)
  | executeCartesianChunk chunk raiseOnStop record =>
      exact discarded (keeps_executeCartesianChunk up _ _ _)
  | executeJointChunk chunk raiseOnStop =>
      exact discarded (keeps_executeJointChunk up chunk raiseOnStop)
  | moveJoint qTarget duration maxJointSpeed realtime =>
      exact discarded (keeps_moveJoint up _ _ _ _)
  | home q maxJointSpeed duration => exact keeps_home up q maxJointSpeed duration
  | goHomeSafe qHome liftM openGripperWidth maxTcpSpeed maxJointSpeed =>
      exact discarded (keeps_goHomeSafe up _ _ _ _ _)
  | zeroFtSensor =>
      exact (keeps_checkLease up).bind fun _ => keeps_backend up (by trivial)
  | stop => exact Keeps.bind (keeps_op up (by trivial)) fun _ => keeps_backend up (by trivial)
  | setSafetyProfile name => exact keeps_setSafetyProfile up name

/-- Wherever a sequence of calls has come to, also within a call, what the invariant gives
and the monitor asks of its state holds. -/
theorem Upkeep.holds_throughout {safe : σ → Prop} (holding : ∀ robot s, inv robot s → safe s)
    (asked : ∀ s op, m.allows s op → safe s) {robot : Robot K} {s : σ}
    {calls : List (FacadeCall K)} {ops : List (Call (effects K))}
    (ran : FacadeRun m (fun _ _ _ => True) robot s calls ops) (start : inv robot s) :
    safe (m.run s ops) := by
  induction ran with
  | idle robot s => exact holding robot s start
  | @running robot s call ops left met ran admitted =>
      have rest := (Program.wp_sound (keeps_facadeCall up call robot s start) ran admitted).2
      cases left with
      | done out => exact holding _ _ rest
      | call op next => exact asked _ op rest.1
  | @returned robot robot' s call out ops later calls met ran admitted rest ih =>
      rw [Monitor.run_append]
      exact ih (Program.wp_sound (keeps_facadeCall up call robot s start) ran admitted).2

end Methods

theorem exists_facade_run {m : Monitor (effects K) σ}
    (answers : ∀ s op, ∃ r, m.admits s ⟨op, r⟩) (calls : List (FacadeCall K)) :
    ∀ (robot : Robot K) (s : σ), ∃ ops, FacadeRun m (fun _ _ _ => True) robot s calls ops := by
  induction calls with
  | nil => exact fun robot s => ⟨[], .idle robot s⟩
  | cons call calls ih =>
      intro robot s
      obtain ⟨ops, ended, ran, admitted⟩ := (call.run robot).exists_admitted answers s
      obtain ⟨out, robot'⟩ := ended
      obtain ⟨later, rest⟩ := ih robot' (m.run s ops)
      exact ⟨ops ++ later, .returned trivial ran admitted rest⟩

end FlexivControl
