/-
Which mode the fake backend is in when the facade streams to it.

A Cartesian chunk starts its mode from any other. A joint chunk starts one only from a
Cartesian mode or from idle, so where homing has left the vendor's primitive mode it
streams joints into that mode, and the fake accepts them.
-/

import FlexivControl.Robot.Session
import FlexivControl.Robot.Untouched

namespace FlexivControl

open Script

def ControlMode.isJointMotion : ControlMode → Bool
  | .nrtJointPosition | .nrtJointImpedance | .rtJointPosition | .rtJointImpedance => true
  | _ => false

/-- The fake's mode, and the flag of the cooperative cancel. -/
structure FakeState where
  mode : ControlMode
  pending : Bool

def FakeState.fresh : FakeState := ⟨.idle, false⟩

variable {K : Type} [Scalar K]

/-- The fake's transitions: a stop idles it, homing leaves the primitive mode. -/
def FakeState.after (s : FakeState) (c : Call (effects K)) : FakeState :=
  match c with
  | ⟨.write (.setMode mode _), _⟩ => { s with mode := mode }
  | ⟨.write .stop, _⟩ => { s with mode := .idle }
  | ⟨.write (.home _), _⟩ => { s with mode := .nrtPrimitive }
  | ⟨.cancelSet, _⟩ => { s with pending := true }
  | ⟨.cancelClear, _⟩ => { s with pending := false }
  | _ => s

/-- The fake reports its mode and refuses only setpoints: Cartesian ones outside the
Cartesian modes, joint ones in them or idle. -/
def FakeState.Answers (s : FakeState) (c : Call (effects K)) : Prop :=
  match c with
  | ⟨.readState, answer⟩ => ∃ state, answer = .ok state ∧ state.controlMode = s.mode
  | ⟨.cancelIsSet _, answer⟩ => answer = s.pending
  | ⟨.write (.streamCartesian _ _), answer⟩ => answer = .ok () ↔ s.mode.isCartesian
  | ⟨.write (.streamJoint _), answer⟩ =>
      answer = .ok () ↔ ¬ (s.mode.isCartesian ∨ s.mode = .idle)
  | ⟨.write _, answer⟩ => answer = .ok ()
  | _ => True

/-- The mode fits the setpoint. -/
def ControlMode.Fits (mode : ControlMode) (op : Op K) : Prop :=
  match op with
  | .write (.streamCartesian _ _) => mode.isCartesian = true
  | .write (.streamJoint _) => mode.isJointMotion = true
  | _ => True

def fakeModes : Monitor (effects K) FakeState where
  observe := FakeState.after
  admits := FakeState.Answers
  allows s op := s.mode.Fits op

def ControlMode.Untorqued (mode : ControlMode) : Prop := mode ≠ .rtJointTorque

theorem ControlMode.untorqued_of_cartesian {mode : ControlMode}
    (cartesian : mode.isCartesian = true) : mode.Untorqued := by
  intro torque
  rw [torque] at cartesian
  cases cartesian

theorem ControlMode.untorqued_of_joint {mode : ControlMode}
    (joint : mode.isJointMotion = true) : mode.Untorqued := by
  intro torque
  rw [torque] at joint
  cases joint

def BackendCall.KeepsMode : BackendCall K → Prop
  | .moveGripper _ | .setContactWrenchLimit _ | .zeroFtSensor => True
  | _ => False

def Op.KeepsMode : Op K → Prop
  | .write call => call.KeepsMode
  | _ => True

theorem Op.IsSteady.keepsMode {op : Op K} (steady : op.IsSteady) : op.KeepsMode := by
  cases op with
  | write call =>
      cases call with
      | moveGripper cmd => trivial
      | setContactWrenchLimit wrench => trivial
      | _ => exact absurd steady id
  | _ => trivial

theorem Op.KeepsMode.fits {op : Op K} (keeps : op.KeepsMode) (mode : ControlMode) :
    mode.Fits op := by
  cases op with
  | write call =>
      cases call with
      | streamCartesian pose wrench => exact absurd keeps id
      | streamJoint q => exact absurd keeps id
      | _ => trivial
  | _ => trivial

theorem Op.KeepsMode.after {op : Op K} (keeps : op.KeepsMode) (answer : Op.Resp op)
    (s : FakeState) : (s.after ⟨op, answer⟩).mode = s.mode := by
  cases op with
  | write call =>
      cases call with
      | setMode mode params => exact absurd keeps id
      | stop => exact absurd keeps id
      | home qHome => exact absurd keeps id
      | _ => rfl
  | _ => rfl

/-- From the modes of `pre` the script streams in matching modes only and ends in one of
`post`; where it raises, at least not in the torque mode. -/
def Matches {α : Type} (pre : ControlMode → Prop) (x : RobotM K α)
    (post : α → ControlMode → Prop) : Prop :=
  ∀ robot s, pre s.mode → wp fakeModes x
    (fun out _ s' => match out with
      | .ok a => post a s'.mode
      | .error _ => s'.mode.Untorqued) robot s

namespace Matches

variable {α β : Type} {pre mid : ControlMode → Prop} {post post' : α → ControlMode → Prop}

theorem bind {x : RobotM K α} {f : α → RobotM K β} {last : β → ControlMode → Prop}
    (first : Matches pre x post) (rest : ∀ a, Matches (post a) (f a) last) :
    Matches pre (x >>= f) last := by
  intro robot s holds
  rw [wp_bind]
  apply wp_mono (first robot s holds)
  intro out robot' s' reached
  cases out with
  | ok a => exact rest a robot' s' reached
  | error e => exact reached

theorem pure {a : α} (holds : ∀ mode, pre mode → post a mode) :
    Matches pre (Pure.pure a : RobotM K α) post :=
  fun _ s before => holds s.mode before

theorem throw {e : Exc} (calm : ∀ mode, pre mode → mode.Untorqued) :
    Matches pre (MonadExcept.throw e : RobotM K α) post :=
  fun _ s before => calm s.mode before

theorem of_imp {x : RobotM K α} (kept : Matches mid x post) (before : ∀ mode, pre mode → mid mode)
    (after : ∀ a mode, post a mode → post' a mode) : Matches pre x post' := by
  intro robot s holds
  apply wp_mono (kept robot s (before s.mode holds))
  intro out robot' s' reached
  cases out with
  | ok a => exact after a s'.mode reached
  | error e => exact reached

theorem tryCatch {x : RobotM K α} {handler : Exc → RobotM K α} (body : Matches pre x post)
    (recovery : ∀ e, Matches ControlMode.Untorqued (handler e) post) :
    Matches pre (MonadExcept.tryCatch x handler) post := by
  intro robot s holds
  rw [wp_tryCatch]
  apply wp_mono (body robot s holds)
  intro out robot' s' reached
  cases out with
  | ok a => exact reached
  | error e => exact recovery e robot' s' reached

theorem keeping {x : RobotM K α} (keeps : Uses (S := effects K) Op.KeepsMode x)
    (calm : ∀ mode, pre mode → mode.Untorqued) : Matches pre x fun _ => pre := by
  intro robot s holds
  have same : wp fakeModes x (fun _ _ s' => s'.mode = s.mode) robot s := by
    apply keeps.wp
    · intro s' op keeps _
      exact keeps.fits s'.mode
    · intro s' op answer keeps same
      exact (keeps.after answer s').trans same
    · rfl
  apply wp_mono same
  intro out robot' s' same
  cases out with
  | ok a => exact same ▸ holds
  | error e => exact same ▸ calm s.mode holds

theorem steady {x : RobotM K α} (steady : Uses (S := effects K) Op.IsSteady x)
    (calm : ∀ mode, pre mode → mode.Untorqued) : Matches pre x fun _ => pre :=
  keeping (steady.mono fun _ => Op.IsSteady.keepsMode) calm

theorem backend {call : BackendCall K} {after : ControlMode → Prop}
    (fits : ∀ mode, pre mode → mode.Fits (Op.write call))
    (changes : ∀ s : FakeState, pre s.mode → ∀ answer, after (s.after ⟨.write call, answer⟩).mode)
    (calm : ∀ mode, after mode → mode.Untorqued) :
    Matches pre (FlexivControl.backend call) fun _ => after := by
  intro robot s holds
  rw [wp_backend]
  refine ⟨fits s.mode holds, ?_⟩
  intro answer _
  cases answer with
  | ok _ => exact changes s holds (.ok ())
  | error e => exact calm _ (changes s holds (.error e))

theorem setMode (mode : ControlMode) (params : ModeParams K) (calm : mode.Untorqued) :
    Matches pre (FlexivControl.backend (.setMode mode params)) fun _ found => found = mode := by
  apply backend
  · exact fun _ _ => trivial
  · exact fun _ _ _ => rfl
  · intro found same
    exact same ▸ calm

theorem stop : Matches pre (FlexivControl.backend .stop : RobotM K Unit) fun _ mode =>
    mode = .idle := by
  apply backend
  · exact fun _ _ => trivial
  · exact fun _ _ _ => rfl
  · intro mode idle torque
    cases idle.symm.trans torque

theorem getState :
    Matches pre (FlexivControl.getState : RobotM K (RobotState K)) fun state mode =>
      pre mode ∧ state.controlMode = mode := by
  intro robot s holds
  unfold FlexivControl.getState
  rw [wp_bind, wp_readState]
  refine ⟨trivial, ?_⟩
  intro answer reported
  obtain ⟨state, same, named⟩ := reported
  rw [same]
  exact ⟨trivial, fun _ _ => ⟨holds, named⟩⟩

theorem perform (op : Op K) (keeps : op.KeepsMode) (calm : ∀ mode, pre mode → mode.Untorqued) :
    Matches pre (FlexivControl.perform op) fun _ => pre :=
  keeping (uses_op keeps) calm

theorem attempt (result : Except Exc α) (calm : ∀ mode, pre mode → mode.Untorqued) :
    Matches pre (FlexivControl.attempt result : RobotM K α) fun _ => pre :=
  keeping (uses_attempt result) calm

end Matches

/-! ### The Cartesian executor -/

def ControlMode.Cartesian (mode : ControlMode) : Prop := mode.isCartesian = true

theorem untorqued_idle : ∀ mode : ControlMode, mode = .idle → mode.Untorqued := by
  intro mode idle torque
  cases idle.symm.trans torque

theorem untorqued_cartesian : ∀ mode : ControlMode, mode.Cartesian → mode.Untorqued :=
  fun _ => ControlMode.untorqued_of_cartesian

def TickMode (fit : ControlMode → Prop) {α : Type} (out : α × Bool) (mode : ControlMode) : Prop :=
  if out.2 then fit mode else mode.Untorqued

theorem matches_cancelTick {pre : ControlMode → Prop} (calm : ∀ mode, pre mode → mode.Untorqued) :
    Matches pre (cancelTick : RobotM K Unit) fun _ mode => mode = .idle :=
  (Matches.perform (K := K) .cancelClear trivial calm).bind fun _ => .stop

theorem matches_returnResult {pre : ControlMode → Prop} (result : ExecutionResult K)
    (raiseOnStop : Bool) (calm : ∀ mode, pre mode → mode.Untorqued) :
    Matches pre (returnResult result raiseOnStop) fun _ => pre := by
  apply (Matches.perform (.chunkReturns result.success result.stopReason) trivial calm).bind
  intro _
  split
  · exact .throw calm
  · exact .pure fun _ holds => holds

theorem matches_startCartesianImpedance {pre : ControlMode → Prop}
    (impedance : Option (ImpedanceParams K)) (realtime : Bool)
    (forceControl : Option (ForceControlParams K)) (nullspaceQ : Option (List K))
    (calm : ∀ mode, pre mode → mode.Untorqued) :
    Matches pre (startCartesianImpedance impedance realtime forceControl nullspaceQ)
      fun _ => ControlMode.Cartesian := by
  apply (Matches.keeping uses_get calm).bind
  intro robot
  have cartesian : (if realtime then ControlMode.rtCartesianMotionForce
      else .nrtCartesianMotionForce).Cartesian := by
    cases realtime <;> exact rfl
  apply (Matches.setMode _ _ (untorqued_cartesian _ cartesian)).of_imp (fun _ holds => holds)
  intro _ mode same
  exact same ▸ cartesian

theorem matches_ensureCartesianStart (chunk : CartesianChunk K) (result : ExecutionResult K) :
    Matches ControlMode.Untorqued (ensureCartesianStart chunk result)
      fun _ => ControlMode.Cartesian := by
  apply Matches.getState.bind
  intro start
  split
  · rename_i cartesian
    apply Matches.pure
    rintro mode ⟨_, named⟩
    exact named ▸ cartesian
  · apply (matches_startCartesianImpedance _ _ _ _ fun _ holds => holds.1).bind
    intro _
    apply Matches.getState.bind
    intro start
    exact .pure fun _ holds => holds.1

theorem matches_cartesianTick (chunk : CartesianChunk K) (wrenchCap : Wrench K) (t0 : K)
    (sp : CartesianSetpoint K) (run : ChunkRun K) :
    Matches ControlMode.Cartesian (cartesianTick chunk wrenchCap t0 sp run)
      (TickMode ControlMode.Cartesian) := by
  unfold cartesianTick
  dsimp only
  apply (Matches.perform (K := K) (.cancelIsSet .tick) trivial untorqued_cartesian).bind
  intro cancelled
  split
  · apply (matches_cancelTick untorqued_cartesian).bind
    exact fun _ => .pure untorqued_idle
  · apply (Matches.steady steady_getState untorqued_cartesian).bind
    intro state
    apply (Matches.steady steady_inFault untorqued_cartesian).bind
    intro faulted
    split
    · exact Matches.stop.bind fun _ => .pure untorqued_idle
    · split
      · exact Matches.stop.bind fun _ => .pure untorqued_idle
      · apply (Matches.keeping (uses_filterCartesian _ _ _) untorqued_cartesian).bind
        intro sr
        split
        · have streams (pose : Pose K) (wrench : Option (Wrench K)) :
              Matches ControlMode.Cartesian (backend (.streamCartesian pose wrench))
                fun _ => ControlMode.Cartesian :=
            .backend (fun _ holds => holds) (fun _ holds _ => holds) untorqued_cartesian
          apply (streams _ _).bind
          intro _
          apply (Matches.steady (steady_afterStream _ _ _ _ _ _) untorqued_cartesian).bind
          exact fun _ => .pure fun _ holds => holds
        · exact Matches.stop.bind fun _ => .pure untorqued_idle

theorem matches_cartesianTicks (chunk : CartesianChunk K) (wrenchCap : Wrench K) (t0 : K)
    (setpoints : List (CartesianSetpoint K)) :
    ∀ run, Matches ControlMode.Cartesian (cartesianTicks chunk wrenchCap t0 setpoints run)
      fun _ => ControlMode.Untorqued := by
  induction setpoints with
  | nil => exact fun run => .pure untorqued_cartesian
  | cons sp rest ih =>
      intro run
      apply (matches_cartesianTick chunk wrenchCap t0 sp run).bind
      intro out
      obtain ⟨run, goOn⟩ := out
      cases goOn with
      | true => exact ih run
      | false => exact .pure fun _ holds => holds

theorem matches_guardedTicks (chunk : CartesianChunk K) (wrenchCap : Wrench K) (relaxed : Bool)
    (t0 : K) (setpoints : List (CartesianSetpoint K)) (run : ChunkRun K) :
    Matches ControlMode.Cartesian (guardedTicks chunk wrenchCap relaxed t0 setpoints run)
      fun _ => ControlMode.Untorqued := by
  have restore (run : ChunkRun K) : Matches ControlMode.Untorqued
      (restoreWrenchLimit relaxed run) fun _ => ControlMode.Untorqued :=
    .steady (steady_restoreWrenchLimit relaxed run) fun _ holds => holds
  have body : Matches ControlMode.Cartesian (do
      let run ← cartesianTicks chunk wrenchCap t0 setpoints run
      let run ← resolvePending chunk run
      pure (Except.ok run : Except Exc (ChunkRun K))) fun _ => ControlMode.Untorqued := by
    apply (matches_cartesianTicks chunk wrenchCap t0 setpoints run).bind
    intro run
    apply (Matches.steady (steady_resolvePending chunk run) fun _ holds => holds).bind
    exact fun _ => .pure fun _ holds => holds
  unfold guardedTicks
  apply (body.tryCatch fun e => .pure fun _ holds => holds).bind
  intro outcome
  cases outcome with
  | ok run => exact restore run
  | error e => exact (restore run).bind fun _ => .throw fun _ holds => holds

theorem matches_runCartesianChunk (chunk : CartesianChunk K) (raiseOnStop record : Bool) :
    Matches ControlMode.Untorqued (runCartesianChunk chunk raiseOnStop record)
      fun _ => ControlMode.Untorqued := by
  have same : ∀ mode : ControlMode, mode.Untorqued → mode.Untorqued := fun _ holds => holds
  apply (Matches.keeping (uses_verifyChunkProfile _ _) same).bind
  intro result
  apply (matches_ensureCartesianStart chunk result).bind
  rintro ⟨start, result⟩
  apply (Matches.keeping (uses_resetFilter start) untorqued_cartesian).bind
  intro _
  apply (Matches.attempt _ untorqued_cartesian).bind
  intro resolved
  apply (Matches.keeping uses_get untorqued_cartesian).bind
  intro robot
  dsimp only
  have arm : Uses (S := effects K) Op.IsSteady (armWrenchLimit
      (grantedAllowance robot.profile resolved).isSome
      (effectiveWrenchCap robot.profile resolved)) := by
    unfold armWrenchLimit
    split
    · exact uses_backend trivial
    · exact uses_pure ()
  apply (Matches.steady arm untorqued_cartesian).bind
  intro _
  apply (Matches.perform (K := K) .perfCounter trivial untorqued_cartesian).bind
  intro t0
  apply (matches_guardedTicks _ _ _ _ _ _).bind
  intro run
  apply (Matches.steady steady_getState same).bind
  intro final
  exact matches_returnResult _ raiseOnStop same

theorem matches_abortAtEntry (raiseOnStop : Bool) :
    Matches ControlMode.Untorqued (abortAtEntry raiseOnStop : RobotM K (ExecutionResult K))
      fun _ => ControlMode.Untorqued := by
  have same : ∀ mode : ControlMode, mode.Untorqued → mode.Untorqued := fun _ holds => holds
  apply (Matches.perform (K := K) .cancelClear trivial same).bind
  intro _
  apply (Matches.steady steady_getState same).bind
  intro final
  exact matches_returnResult _ raiseOnStop same

theorem matches_executeCartesianChunk (chunk : CartesianChunk K) (raiseOnStop record : Bool) :
    Matches ControlMode.Untorqued (executeCartesianChunk chunk raiseOnStop record)
      fun _ => ControlMode.Untorqued := by
  have same : ∀ mode : ControlMode, mode.Untorqued → mode.Untorqued := fun _ holds => holds
  apply (Matches.steady steady_checkLease same).bind
  intro _
  apply (Matches.perform (K := K) (.cancelIsSet .entry) trivial same).bind
  intro cancelled
  split
  · exact matches_abortAtEntry raiseOnStop
  · exact matches_runCartesianChunk chunk raiseOnStop record

/-! ### The joint executor -/

def ControlMode.JointMotion (mode : ControlMode) : Prop := mode.isJointMotion = true

theorem untorqued_jointMotion : ∀ mode : ControlMode, mode.JointMotion → mode.Untorqued :=
  fun _ => ControlMode.untorqued_of_joint

def ControlMode.LeadsToJoint (mode : ControlMode) : Prop :=
  mode.Untorqued ∧ mode ≠ .nrtPrimitive

theorem ControlMode.LeadsToJoint.motion {mode : ControlMode} (leads : mode.LeadsToJoint)
    (kept : ¬ (mode.isCartesian = true ∨ mode = .idle)) : mode.JointMotion := by
  cases mode with
  | idle => exact absurd (Or.inr rfl) kept
  | nrtCartesianMotionForce => exact absurd (Or.inl rfl) kept
  | rtCartesianMotionForce => exact absurd (Or.inl rfl) kept
  | nrtPrimitive => exact absurd rfl leads.2
  | rtJointTorque => exact absurd rfl leads.1
  | _ => rfl

theorem matches_startJointImpedance {pre : ControlMode → Prop}
    (jointImpedance : Option (JointImpedanceParams K)) (realtime : Bool) :
    Matches pre (startJointImpedance jointImpedance realtime) fun _ => ControlMode.JointMotion := by
  have joint : (if realtime then ControlMode.rtJointImpedance
      else .nrtJointImpedance).JointMotion := by
    cases realtime <;> exact rfl
  apply (Matches.setMode _ _ (untorqued_jointMotion _ joint)).of_imp (fun _ holds => holds)
  intro _ mode same
  exact same ▸ joint

theorem matches_ensureJointStart (result : ExecutionResult K) :
    Matches ControlMode.LeadsToJoint (ensureJointStart result) fun _ => ControlMode.JointMotion := by
  apply Matches.getState.bind
  intro start
  split
  · apply (matches_startJointImpedance none false).bind
    intro _
    apply Matches.getState.bind
    exact fun _ => .pure fun _ holds => holds.1
  · rename_i kept
    apply Matches.pure
    rintro mode ⟨leads, named⟩
    exact leads.motion (named ▸ kept)

theorem matches_jointTick (q : List K) (result : ExecutionResult K) :
    Matches ControlMode.JointMotion (jointTick q result) (TickMode ControlMode.JointMotion) := by
  unfold jointTick
  apply (Matches.perform (K := K) (.cancelIsSet .tick) trivial untorqued_jointMotion).bind
  intro cancelled
  split
  · apply (matches_cancelTick untorqued_jointMotion).bind
    exact fun _ => .pure untorqued_idle
  · apply (Matches.steady steady_getState untorqued_jointMotion).bind
    intro state
    apply (Matches.steady steady_inFault untorqued_jointMotion).bind
    intro faulted
    split
    · exact Matches.stop.bind fun _ => .pure untorqued_idle
    · apply (Matches.keeping uses_get untorqued_jointMotion).bind
      intro robot
      split
      · exact Matches.stop.bind fun _ => .pure untorqued_idle
      · apply (Matches.keeping (uses_filterJoint _ _) untorqued_jointMotion).bind
        intro sr
        split
        · have streams (q : List K) : Matches ControlMode.JointMotion
              (backend (.streamJoint q)) fun _ => ControlMode.JointMotion :=
            .backend (fun _ holds => holds) (fun _ holds _ => holds) untorqued_jointMotion
          exact (streams _).bind fun _ => .pure fun _ holds => holds
        · exact Matches.stop.bind fun _ => .pure untorqued_idle

theorem matches_jointTicks (setpoints : List (Except Exc (List K))) :
    ∀ result, Matches ControlMode.JointMotion (jointTicks setpoints result)
      fun _ => ControlMode.Untorqued := by
  induction setpoints with
  | nil => exact fun result => .pure untorqued_jointMotion
  | cons next rest ih =>
      intro result
      apply (Matches.attempt next untorqued_jointMotion).bind
      intro q
      apply (matches_jointTick q result).bind
      intro out
      obtain ⟨result, goOn⟩ := out
      cases goOn with
      | true => exact ih result
      | false => exact .pure fun _ holds => holds

theorem matches_runJointChunk (chunk : JointChunk K) (raiseOnStop : Bool) :
    Matches ControlMode.LeadsToJoint (runJointChunk chunk raiseOnStop)
      fun _ => ControlMode.Untorqued := by
  have same : ∀ mode : ControlMode, mode.Untorqued → mode.Untorqued := fun _ holds => holds
  apply (Matches.keeping (uses_verifyChunkProfile _ _) fun _ => And.left).bind
  intro result
  apply (matches_ensureJointStart result).bind
  rintro ⟨start, result⟩
  apply (Matches.keeping (uses_resetFilter start) untorqued_jointMotion).bind
  intro _
  apply (Matches.keeping uses_get untorqued_jointMotion).bind
  intro robot
  apply (Matches.perform (K := K) .perfCounter trivial untorqued_jointMotion).bind
  intro _
  apply (matches_jointTicks _ result).bind
  intro result
  apply (Matches.steady steady_getState same).bind
  intro final
  exact matches_returnResult _ raiseOnStop same

theorem matches_executeJointChunk (chunk : JointChunk K) (raiseOnStop : Bool) :
    Matches ControlMode.LeadsToJoint (executeJointChunk chunk raiseOnStop)
      fun _ => ControlMode.Untorqued := by
  have calm : ∀ mode : ControlMode, mode.LeadsToJoint → mode.Untorqued := fun _ => And.left
  apply (Matches.steady steady_checkLease calm).bind
  intro _
  apply (Matches.perform (K := K) (.cancelIsSet .entry) trivial calm).bind
  intro cancelled
  split
  · exact (matches_abortAtEntry raiseOnStop).of_imp calm fun _ _ holds => holds
  · exact matches_runJointChunk chunk raiseOnStop

def JointChunk.Refused (chunk : JointChunk K) (robot : Robot K) (s : FakeState) : Prop :=
  s.pending = true ∨ (chunk.safetyProfile ≠ "" ∧ chunk.safetyProfile ≠ robot.profile.name)

theorem wp_executeJointChunk_refused {chunk : JointChunk K} {robot : Robot K} {s : FakeState}
    (refused : chunk.Refused robot s) (calm : s.mode.Untorqued) (raiseOnStop : Bool) :
    wp fakeModes (executeJointChunk chunk raiseOnStop)
      (fun _ _ s' => s'.mode.Untorqued) robot s := by
  have aborts (s : FakeState) (calm : s.mode.Untorqued) : wp fakeModes
      (abortAtEntry raiseOnStop : RobotM K (ExecutionResult K))
      (fun _ _ s' => s'.mode.Untorqued) robot s := by
    apply wp_mono (matches_abortAtEntry raiseOnStop robot s calm)
    intro out robot' s' reached
    cases out <;> exact reached
  have entered : wp fakeModes (do
      if ← cancelIsSet .entry then abortAtEntry raiseOnStop
      else runJointChunk chunk raiseOnStop) (fun _ _ s' => s'.mode.Untorqued) robot s := by
    rw [wp_bind]
    refine ⟨trivial, ?_⟩
    intro pending same
    cases pending with
    | true => exact aborts s calm
    | false =>
        have mismatch : chunk.safetyProfile ≠ "" ∧ chunk.safetyProfile ≠ robot.profile.name := by
          rcases refused with set | mismatch
          · cases same.trans set
          · exact mismatch
        change wp fakeModes (runJointChunk chunk raiseOnStop) (fun _ _ s' => s'.mode.Untorqued) robot s
        unfold runJointChunk verifyChunkProfile
        rw [wp_bind, wp_bind, wp_get, afterStep_ok]
        dsimp only
        rw [if_pos mismatch]
        exact calm
  unfold executeJointChunk checkLease
  rw [wp_bind, wp_bind]
  refine ⟨trivial, ?_⟩
  intro owner _
  cases owner with
  | none => exact ⟨trivial, fun _ _ => entered⟩
  | some owner => exact entered

/-! ### Every facade call -/

/-- Where a joint chunk is entered in the primitive mode, it is refused. -/
def FacadeCall.Ready (robot : Robot K) (s : FakeState) : FacadeCall K → Prop
  | .executeJointChunk chunk _ => s.mode = .nrtPrimitive → chunk.Refused robot s
  | _ => True

theorem matches_moveJoint (qTarget : List K) (duration maxJointSpeed : Option K)
    (realtime : Bool) :
    Matches ControlMode.Untorqued (moveJoint qTarget duration maxJointSpeed realtime)
      fun _ => ControlMode.Untorqued := by
  have same : ∀ mode : ControlMode, mode.Untorqued → mode.Untorqued := fun _ holds => holds
  apply (Matches.steady steady_checkLease same).bind
  intro _
  apply (Matches.steady steady_getState same).bind
  intro now
  apply (Matches.attempt _ same).bind
  intro dur
  apply (matches_startJointImpedance none realtime).bind
  intro _
  apply (Matches.keeping uses_get untorqued_jointMotion).bind
  intro robot
  apply (matches_executeJointChunk _ _).of_imp _ fun _ _ holds => holds
  intro mode joint
  refine ⟨untorqued_jointMotion mode joint, ?_⟩
  intro primitive
  rw [primitive] at joint
  cases joint

theorem matches_servoCartesianDelta (translation rotation : Vec3 K) (duration : Option K)
    (frame : String) (gripper : Option (GripperCommand K)) :
    Matches ControlMode.Untorqued
      (servoCartesianDelta translation rotation duration frame gripper)
      fun _ => ControlMode.Untorqued := by
  have same : ∀ mode : ControlMode, mode.Untorqued → mode.Untorqued := fun _ holds => holds
  apply (Matches.steady steady_checkLease same).bind
  intro _
  apply (Matches.keeping uses_get same).bind
  intro robot
  apply (Matches.steady steady_getState same).bind
  intro state
  apply (Matches.attempt _ same).bind
  intro target
  apply (Matches.attempt _ same).bind
  intro wp
  exact matches_executeCartesianChunk _ _ _

theorem matches_servoCartesianPose (pose : Pose K) (duration : K)
    (gripper : Option (GripperCommand K)) :
    Matches ControlMode.Untorqued (servoCartesianPose pose duration gripper)
      fun _ => ControlMode.Untorqued := by
  have same : ∀ mode : ControlMode, mode.Untorqued → mode.Untorqued := fun _ holds => holds
  apply (Matches.keeping uses_get same).bind
  intro robot
  apply (Matches.attempt _ same).bind
  intro wp
  exact matches_executeCartesianChunk _ _ _

theorem keepsMode_commandGripper (cmd : GripperCommand K) (wait : Bool) (timeout : K) :
    Uses (S := effects K) Op.KeepsMode (commandGripper cmd wait timeout) :=
  uses_commandGripper_of (fun _ => Op.IsSteady.keepsMode) trivial cmd wait timeout

theorem matches_home (q : Option (List K)) (maxJointSpeed duration : Option K) :
    Matches ControlMode.Untorqued (home q maxJointSpeed duration)
      fun _ => ControlMode.Untorqued := by
  have same : ∀ mode : ControlMode, mode.Untorqued → mode.Untorqued := fun _ holds => holds
  apply (Matches.steady steady_checkLease same).bind
  intro _
  apply (Matches.keeping uses_get same).bind
  intro robot
  refine Matches.bind (?_ : Matches _ _ fun _ => ControlMode.Untorqued) ?_
  · apply Matches.tryCatch
    · unfold vendorHome
      split
      · exact .throw same
      · apply Matches.backend
        · exact fun _ _ => trivial
        · intro s _ answer primitive
          cases primitive
        · exact same
    · intro e
      split
      · exact (matches_moveJoint _ _ _ _).bind fun _ => .pure same
      · exact .throw same
  · intro _
    unfold homeGripper
    split
    · exact .pure same
    · exact (Matches.keeping (keepsMode_commandGripper _ _ _) same).bind fun _ => .pure same

theorem matches_goHomeSafe (qHome : Option (List K)) (liftM : K) (openGripperWidth : Option K)
    (maxTcpSpeed maxJointSpeed : K) :
    Matches ControlMode.Untorqued
      (goHomeSafe qHome liftM openGripperWidth maxTcpSpeed maxJointSpeed)
      fun _ => ControlMode.Untorqued := by
  have same : ∀ mode : ControlMode, mode.Untorqued → mode.Untorqued := fun _ holds => holds
  have lift : Matches ControlMode.Untorqued (liftStage liftM maxTcpSpeed : RobotM K _)
      fun _ => ControlMode.Untorqued := by
    apply Matches.tryCatch
    · apply (Matches.steady steady_getState same).bind
      intro state
      apply (Matches.keeping uses_get same).bind
      intro robot
      exact (matches_executeCartesianChunk _ _ _).bind fun _ => .pure same
    · exact fun e => .pure same
  have gripper (log : Log K) : Matches ControlMode.Untorqued (gripperStage openGripperWidth log)
      fun _ => ControlMode.Untorqued := by
    apply (Matches.keeping uses_get same).bind
    intro robot
    split
    · exact .pure same
    · apply Matches.tryCatch
      · exact (Matches.keeping (keepsMode_commandGripper _ _ _) same).bind fun _ => .pure same
      · exact fun e => .pure same
  have skip (log : Log K) : Matches ControlMode.Untorqued (skipHome log)
      fun _ => ControlMode.Untorqued := by
    apply (Matches.perform (K := K) (.cancelIsSet .guardReason) trivial same).bind
    intro stopped
    exact (Matches.steady steady_getState same).bind fun _ => .pure same
  have sweep (log : Log K) : Matches ControlMode.Untorqued (homeStage qHome maxJointSpeed log)
      fun _ => ControlMode.Untorqued := by
    apply (Matches.keeping uses_get same).bind
    intro robot
    exact (matches_moveJoint _ _ _ _).bind fun _ => .pure same
  have guard (contactAbort : Bool) : Matches ControlMode.Untorqued
      (homeForbidden contactAbort : RobotM K Bool) fun _ => ControlMode.Untorqued := by
    unfold homeForbidden
    split
    · exact .pure same
    · exact .perform (K := K) (.cancelIsSet .guard) trivial same
  apply (Matches.steady steady_checkLease same).bind
  intro _
  apply lift.bind
  rintro ⟨log, contactAbort⟩
  apply (gripper log).bind
  intro log
  apply (guard contactAbort).bind
  intro forbidden
  split
  · exact skip log
  · exact sweep log

theorem Matches.discarded {α : Type} {x : RobotM K α} {pre : ControlMode → Prop}
    (kept : Matches pre x fun _ => ControlMode.Untorqued) :
    Matches pre (discard x) fun _ => ControlMode.Untorqued :=
  kept.bind fun _ => .pure fun _ holds => holds

theorem wp_facadeCall (call : FacadeCall K) (robot : Robot K) (s : FakeState)
    (calm : s.mode.Untorqued) (ready : call.Ready robot s) :
    wp fakeModes call.run (fun _ _ s' => s'.mode.Untorqued) robot s := by
  have same : ∀ mode : ControlMode, mode.Untorqued → mode.Untorqued := fun _ holds => holds
  have matching {x : RobotM K Unit} {pre : ControlMode → Prop} {post : Unit → ControlMode → Prop}
      (kept : Matches pre x post) (before : pre s.mode)
      (after : ∀ mode, post () mode → mode.Untorqued) :
      wp fakeModes x (fun _ _ s' => s'.mode.Untorqued) robot s := by
    apply wp_mono (kept robot s before)
    intro out robot' s' reached
    cases out with
    | ok u => exact after s'.mode reached
    | error e => exact reached
  cases call with
  | startCartesianImpedance impedance realtime forceControl nullspaceQ =>
      exact matching (matches_startCartesianImpedance _ _ _ _ same) calm untorqued_cartesian
  | startJointImpedance jointImpedance realtime =>
      exact matching (matches_startJointImpedance jointImpedance realtime) calm
        untorqued_jointMotion
  | servoCartesianDelta translation rotation duration frame gripper =>
      exact matching (matches_servoCartesianDelta _ _ _ _ _).discarded calm same
  | servoCartesianPose pose duration gripper =>
      exact matching (matches_servoCartesianPose _ _ _).discarded calm same
  | executeCartesianChunk chunk raiseOnStop record =>
      exact matching (matches_executeCartesianChunk _ _ _).discarded calm same
  | executeJointChunk chunk raiseOnStop =>
      by_cases primitive : s.mode = .nrtPrimitive
      · change wp fakeModes (discard (executeJointChunk chunk raiseOnStop)) _ robot s
        unfold discard
        rw [wp_bind]
        apply wp_mono (wp_executeJointChunk_refused (ready primitive) calm raiseOnStop)
        intro out robot' s' reached
        cases out <;> exact reached
      · exact matching (matches_executeJointChunk chunk raiseOnStop).discarded ⟨calm, primitive⟩
          same
  | moveJoint qTarget duration maxJointSpeed realtime =>
      exact matching (matches_moveJoint _ _ _ _).discarded calm same
  | home q maxJointSpeed duration => exact matching (matches_home _ _ _) calm same
  | goHomeSafe qHome liftM openGripperWidth maxTcpSpeed maxJointSpeed =>
      exact matching (matches_goHomeSafe _ _ _ _ _).discarded calm same
  | zeroFtSensor =>
      have zeroes : Uses (S := effects K) Op.KeepsMode (zeroFtSensor : RobotM K Unit) :=
        (steady_checkLease.mono fun _ => Op.IsSteady.keepsMode).bind fun _ => uses_backend trivial
      exact matching (Matches.keeping zeroes same) calm same
  | stop =>
      have stops : Matches ControlMode.Untorqued (stop : RobotM K Unit) fun _ mode =>
          mode = .idle :=
        (Matches.perform (K := K) .cancelSet trivial same).bind fun _ => .stop
      exact matching stops calm untorqued_idle
  | setSafetyProfile name =>
      have loads : Uses (S := effects K) Op.KeepsMode (setSafetyProfile name : RobotM K Unit) :=
        Uses.bind (uses_op trivial) fun _ => (uses_attempt _).bind fun _ =>
          (uses_modify _).bind fun _ => uses_op trivial
      exact matching (Matches.keeping loads same) calm same

/-- Every setpoint is streamed in a mode that fits it. -/
def StreamsFit (ops : List (Call (effects K))) : Prop :=
  ∀ before c after, ops = before ++ c :: after →
    (fakeModes.run FakeState.fresh before).mode.Fits c.op

/-- While no joint chunk gets through its entry in the mode homing leaves, whatever calls are
made one after the other stream in fitting modes only. -/
theorem streams_fit_unless_primitive {robot : Robot K} {calls : List (FacadeCall K)}
    {ops : List (Call (effects K))}
    (ran : FacadeRun fakeModes (fun robot s call => call.Ready robot s) robot .fresh calls ops) :
    StreamsFit ops := by
  have idle : FakeState.fresh.mode.Untorqued := untorqued_idle _ rfl
  have allowed : fakeModes.Allowed .fresh ops := ran.allowed
    (fun call robot s calm ready => wp_facadeCall call robot s calm ready) idle
  intro before c after split
  rw [split] at allowed
  exact allowed.at_call

noncomputable def firstTick (state : RobotState ℝ) : List (Call (effects ℝ)) :=
  [⟨.facadeOwner, some "default"⟩, ⟨.cancelIsSet .entry, false⟩, ⟨.readState, .ok state⟩,
    ⟨.publishState state, ()⟩, ⟨.perfCounter, (0 : ℝ)⟩] ++ clearTick state (uniform 0)

theorem firstTick_trace (state : RobotState ℝ) (joints : state.q = uniform 0)
    (unloaded : state.wrench = zeroed.wrench)
    (kept : ¬ (state.controlMode.isCartesian = true ∨ state.controlMode = .idle)) :
    ∃ left, Trace ((FacadeCall.executeJointChunk restingChunk false).run tabletopRobot)
      (firstTick state) left := by
  let robot : Robot ℝ := tabletopRobot
  let anchored : Robot ℝ := { robot with filter := robot.filter.reset (some state) }
  have rest : anchored.AtRest := by
    refine ⟨rfl, rfl, Or.inl ?_⟩
    change some state.q = some (uniform 0)
    rw [joints]
  have started : Trace (ensureJointStart (restingChunk.report robot) robot)
      ([⟨.readState, .ok state⟩, ⟨.publishState state, ()⟩] ++ [])
      (.done (.ok (state, restingChunk.report robot), robot)) := by
    apply Script.trace_then (getState_trace robot state)
    rw [if_neg kept]
    exact .nil _
  have reset : Trace (resetFilter state robot) [] (.done (.ok ⟨⟩, anchored)) := .nil _
  have timed : Trace (perfCounter anchored) [⟨.perfCounter, (0 : ℝ)⟩]
      (.done (.ok (0 : ℝ), anchored)) := .cons (.nil _)
  let interp : JointChunkInterpolator ℝ :=
    { chunk := restingChunk, startQ := state.q, hz := robot.controlHz
      maxJointSpeed := some (Scalar.ofNat 2 * robot.profile.maxJointSpeedScale) }
  have setpoints : ∃ n, interp.setpoints = .ok (uniform 0) :: List.replicate n (.ok (uniform 0)) := by
    let wp : JointWaypoint ℝ := { positions := uniform 0, duration := some 1, timed := Or.inr rfl }
    have only : interp.chunk.waypoints = [wp] := rfl
    have all := JointChunkInterpolator.setpoints_rest only rfl joints
    have some_tick : 1 ≤ requestedTicks ((⟨uniform 0, none, some 1, Or.inr rfl⟩ :
        JointWaypoint ℝ).resolveDuration interp.hz) interp.hz := le_max_left _ _
    obtain ⟨n, counted⟩ : ∃ n, (requestedTicks ((⟨uniform 0, none, some 1, Or.inr rfl⟩ :
        JointWaypoint ℝ).resolveDuration interp.hz) interp.hz).toNat = n + 1 :=
      ⟨_, (Nat.succ_pred_eq_of_pos (by omega)).symm⟩
    refine ⟨n, all.trans ?_⟩
    rw [counted, List.replicate_succ]
  obtain ⟨n, setpoints⟩ := setpoints
  have tick : ∃ left, Trace (jointTicks interp.setpoints (restingChunk.report robot) anchored)
      (clearTick state (uniform 0)) left := by
    obtain ⟨clipped, robot', _, _, ran⟩ :=
      jointTick_resting rest (restingChunk.report robot) joints unloaded
    rw [setpoints, ← List.append_nil (clearTick state (uniform 0))]
    exact ⟨_, jointTicks_clear ran (.nil _)⟩
  have run : ∃ left, Trace (runJointChunk restingChunk false robot)
      ([] ++ (([⟨.readState, .ok state⟩, ⟨.publishState state, ()⟩] ++ []) ++
        ([] ++ ([] ++ ([⟨.perfCounter, (0 : ℝ)⟩] ++ clearTick state (uniform 0)))))) left := by
    obtain ⟨left, ticked⟩ := Script.trace_within (fun result => do
      let final ← getState
      returnResult { result with finalState := some final } false) tick
    exact ⟨left, Script.trace_then (verifyChunkProfile_trace (Or.inl rfl) {})
      (Script.trace_then started (Script.trace_then reset
        (Script.trace_then (x := get) (.nil _) (Script.trace_then timed ticked))))⟩
  obtain ⟨left, ran⟩ := run
  exact Script.trace_within _ ⟨left, .cons (.cons ran)⟩

/-- Joint mode started by hand, then the chunk: its first setpoint fits. -/
theorem streams_fit_unless_primitive_started :
    StreamsFit ([⟨.write (jointImpedanceCall none false), .ok ()⟩] ++ firstTick zeroed) := by
  obtain ⟨left, chunk⟩ := firstTick_trace zeroed rfl rfl (by
    rintro (cartesian | idle)
    · cases cartesian
    · cases idle)
  have started : Trace ((FacadeCall.startJointImpedance none false : FacadeCall ℝ).run tabletopRobot)
      [⟨.write (jointImpedanceCall none false), .ok ()⟩] (.done (.ok (), tabletopRobot)) :=
    .cons (.nil _)
  have accepted : (ControlMode.nrtJointImpedance.isCartesian = true ∨
      ControlMode.nrtJointImpedance = .idle) → False := by
    rintro (cartesian | idle)
    · cases cartesian
    · cases idle
  have ran : FacadeRun fakeModes (fun robot s call => call.Ready robot s) tabletopRobot .fresh
      [.startJointImpedance none false, .executeJointChunk restingChunk false]
      ([⟨.write (jointImpedanceCall none false), .ok ()⟩] ++ firstTick zeroed) := by
    apply FacadeRun.returned trivial started ⟨rfl, trivial⟩
    apply FacadeRun.running _ chunk
    · exact ⟨trivial, rfl, ⟨zeroed, rfl, rfl⟩, trivial, trivial, rfl, ⟨zeroed, rfl, rfl⟩, trivial,
        trivial, ⟨fun _ => accepted, fun _ => rfl⟩, trivial⟩
    · intro primitive
      cases primitive
  exact streams_fit_unless_primitive ran

noncomputable def homed : RobotState ℝ := { zeroed with controlMode := .nrtPrimitive }

/-- Home, then a joint chunk: the fake accepts its first setpoint in the primitive mode. -/
theorem homed_joint_chunk_misfits :
    ∃ ops : List (Call (effects ℝ)),
      FacadeRun fakeModes (fun _ _ _ => True) tabletopRobot .fresh
        [.home none none none, .executeJointChunk restingChunk false] ops ∧ ¬ StreamsFit ops := by
  have kept : ¬ (homed.controlMode.isCartesian = true ∨ homed.controlMode = .idle) := by
    rintro (cartesian | idle)
    · cases cartesian
    · cases idle
  obtain ⟨left, chunk⟩ := firstTick_trace homed rfl rfl kept
  have went : Trace ((FacadeCall.home none none none : FacadeCall ℝ).run tabletopRobot)
      [⟨.facadeOwner, some "default"⟩, ⟨.write (.home tabletopRobot.cfg.qHome), .ok ()⟩]
      (.done (.ok (), tabletopRobot)) := .cons (.cons (.nil _))
  refine ⟨_, FacadeRun.returned trivial went ⟨trivial, rfl, trivial⟩
    (FacadeRun.running trivial chunk ?_), ?_⟩
  · exact ⟨trivial, rfl, ⟨homed, rfl, rfl⟩, trivial, trivial, rfl, ⟨homed, rfl, rfl⟩, trivial,
      trivial, ⟨fun _ => kept, fun _ => rfl⟩, trivial⟩
  · intro fits
    have streamed := fits [⟨.facadeOwner, some "default"⟩,
      ⟨.write (.home tabletopRobot.cfg.qHome), .ok ()⟩, ⟨.facadeOwner, some "default"⟩,
      ⟨.cancelIsSet .entry, false⟩, ⟨.readState, .ok homed⟩, ⟨.publishState homed, ()⟩,
      ⟨.perfCounter, (0 : ℝ)⟩, ⟨.cancelIsSet .tick, false⟩, ⟨.readState, .ok homed⟩,
      ⟨.publishState homed, ()⟩, ⟨.inFault, .ok false⟩]
      ⟨.write (.streamJoint (uniform 0)), .ok ()⟩ [] rfl
    cases streamed

end FlexivControl
