/-
The contact guard of the blocking executors.

The monitor remembers what the last read measured and allows a setpoint only while
that is within the cap. Between the read of a tick and its setpoint both executors
compare the two.
-/

import FlexivControl.Robot.Rules

namespace FlexivControl

open Script

variable {K : Type} [Scalar K]

/-- What the last successful read measured. -/
def measured (last : Option (RobotState K)) (c : Call (effects K)) : Option (RobotState K) :=
  match c with
  | ⟨.readState, .ok state⟩ => some state
  | _ => last

/-- Setpoints are allowed while the last measured wrench is within `cap`. -/
def contactMonitor (cap : Wrench K) : Monitor (effects K) (Option (RobotState K)) where
  observe := measured
  admits _ _ := True
  allows last op := match op with
    | .write call => call.setpoint ≠ none →
        ∃ state, last = some state ∧ exceeds state.wrench cap = false
    | _ => True

/-- Every setpoint in the trace follows a read whose wrench is within `cap`. -/
def ContactGuarded (cap : Wrench K) (calls : List (Call (effects K))) : Prop :=
  ∀ before call answer after, calls = before ++ ⟨.write call, answer⟩ :: after →
    call.setpoint ≠ none →
    ∃ state, before.foldl measured none = some state ∧ exceeds state.wrench cap = false

/-- Whatever is answered, the script streams only under the cap, and it takes robots
satisfying `pre` to robots satisfying `post`. -/
def KeepsContact {α : Type} (cap : Wrench K) (pre post : Robot K → Prop) (x : RobotM K α) : Prop :=
  ∀ robot last, pre robot →
    wp (contactMonitor cap) x (fun _ robot' _ => post robot') robot last

def AnyRobot (_ : Robot K) : Prop := True

section Guard

variable {cap : Wrench K} {pre mid post : Robot K → Prop} {α β : Type}

theorem KeepsContact.guarded {x : RobotM K α} (kept : KeepsContact cap pre post x) {robot : Robot K}
    (holds : pre robot) {calls : List (Call (effects K))}
    {q : Program (effects K) (Except Exc α × Robot K)} (ran : Trace (x robot) calls q) :
    ContactGuarded cap calls := by
  have allowed := Program.wp_allowed (kept robot none holds) ran
    ((contactMonitor cap).admitted_of_forall (fun _ _ => trivial) none calls)
  intro before call answer after decomposed streams
  rw [decomposed] at allowed
  exact allowed.at_call streams

theorem KeepsContact.bind {x : RobotM K α} {f : α → RobotM K β} (first : KeepsContact cap pre mid x)
    (rest : ∀ a, KeepsContact cap mid post (f a)) (raised : ∀ robot, mid robot → post robot) :
    KeepsContact cap pre post (x >>= f) := by
  intro robot last holds
  rw [wp_bind]
  apply wp_mono (first robot last holds)
  intro out robot' last' between
  cases out with
  | ok a => exact rest a robot' last' between
  | error e => exact raised robot' between

theorem KeepsContact.pure (a : α) : KeepsContact cap pre pre (Pure.pure a : RobotM K α) :=
  fun _ _ holds => holds

theorem KeepsContact.throw (e : Exc) :
    KeepsContact cap pre pre (MonadExcept.throw e : RobotM K α) :=
  fun _ _ holds => holds

theorem KeepsContact.attempt (result : Except Exc α) :
    KeepsContact cap pre pre (FlexivControl.attempt result) := by
  intro robot last holds
  rw [wp_attempt]
  exact holds

theorem KeepsContact.perform {op : Op K} (allowed : ∀ last, (contactMonitor cap).allows last op) :
    KeepsContact cap pre pre (FlexivControl.perform op) :=
  fun _ last holds => ⟨allowed last, fun _ _ => holds⟩

theorem KeepsContact.backend {call : BackendCall K} (mute : call.setpoint = none) :
    KeepsContact cap pre pre (FlexivControl.backend call) := by
  intro robot last holds
  rw [wp_backend]
  exact ⟨fun streams => absurd mute streams, fun _ _ => holds⟩

theorem BackendCall.IsQuiet.setpoint {call : BackendCall K} (quiet : call.IsQuiet) :
    call.setpoint = none := by
  cases call with
  | streamCartesian pose wrench => exact absurd quiet id
  | streamJoint q => exact absurd quiet id
  | _ => rfl

theorem Op.IsQuiet.allowed {op : Op K} (quiet : op.IsQuiet) (last : Option (RobotState K)) :
    (contactMonitor cap).allows last op := by
  cases op with
  | write call => exact fun streams => absurd (BackendCall.IsQuiet.setpoint quiet) streams
  | _ => trivial

theorem KeepsContact.of_quiet {x : RobotM K α} (quiet : Uses (S := effects K) Op.IsQuiet x) :
    KeepsContact cap pre AnyRobot x :=
  fun _ _ _ => quiet.wp (fun last _ q _ => q.allowed last)
    (fun _ _ _ _ _ => trivial) trivial

theorem keepsContact_checkLease : KeepsContact cap pre pre (checkLease : RobotM K Unit) := by
  have owner : KeepsContact cap pre pre (FlexivControl.perform .facadeOwner : RobotM K _) :=
    .perform fun _ => trivial
  apply owner.bind _ fun _ => id
  intro known
  cases known with
  | none => exact .perform fun _ => trivial
  | some _ => exact .pure ()

theorem keepsContact_cancelIsSet (site : CancelSite) :
    KeepsContact cap pre pre (cancelIsSet site : RobotM K Bool) :=
  .perform fun _ => trivial

theorem keepsContact_perfCounter : KeepsContact cap pre pre (perfCounter : RobotM K K) :=
  .perform fun _ => trivial

theorem keepsContact_cancelClear :
    KeepsContact cap pre pre (FlexivControl.perform .cancelClear : RobotM K Unit) :=
  .perform fun _ => trivial

theorem keepsContact_cancelTick : KeepsContact cap pre pre (cancelTick : RobotM K Unit) :=
  keepsContact_cancelClear.bind (fun _ => .backend rfl) fun _ => id

theorem keepsContact_halt (a : α) :
    KeepsContact cap pre pre (do FlexivControl.backend .stop; Pure.pure a : RobotM K α) :=
  (KeepsContact.backend rfl).bind (fun _ => .pure a) fun _ => id

theorem keepsContact_gate {f : RobotState K → RobotM K α}
    (rest : ∀ state robot, pre robot →
      wp (contactMonitor cap) (f state) (fun _ robot' _ => post robot') robot (some state))
    (raised : ∀ robot, pre robot → post robot) :
    KeepsContact cap pre post (do let state ← getState; f state) := by
  intro robot last holds
  unfold getState
  simp only [wp_bind, wp_readState]
  refine ⟨trivial, fun answer _ => ?_⟩
  cases answer with
  | error e => exact raised robot holds
  | ok state => exact ⟨trivial, fun _ _ => rest state robot holds⟩

theorem keepsContact_getState : KeepsContact cap pre pre (getState : RobotM K (RobotState K)) := by
  intro robot last holds
  unfold getState
  simp only [wp_bind, wp_readState]
  refine ⟨trivial, fun answer _ => ?_⟩
  cases answer with
  | error e => exact holds
  | ok state => exact ⟨trivial, fun _ _ => holds⟩

theorem wp_inFault_of {f : Bool → RobotM K α} {robot : Robot K} {last : Option (RobotState K)}
    (rest : ∀ faulted,
      wp (contactMonitor cap) (f faulted) (fun _ robot' _ => post robot') robot last)
    (raised : post robot) :
    wp (contactMonitor cap) (do let faulted ← inFault; f faulted)
      (fun _ robot' _ => post robot') robot last := by
  rw [wp_bind, wp_inFault]
  refine ⟨trivial, fun answer _ => ?_⟩
  cases answer with
  | error e => exact raised
  | ok faulted => exact rest faulted

theorem wp_stream_of {call : BackendCall K} {f : Unit → RobotM K α} {robot : Robot K}
    {state : RobotState K} (light : exceeds state.wrench cap = false)
    (rest : KeepsContact cap post post (f ())) (holds : post robot) :
    wp (contactMonitor cap) (do let u ← FlexivControl.backend call; f u)
      (fun _ robot' _ => post robot') robot (some state) := by
  rw [wp_bind, wp_backend]
  refine ⟨fun _ => ⟨state, rfl, light⟩, fun answer _ => ?_⟩
  cases answer with
  | error e => exact holds
  | ok _ => exact rest _ _ holds

theorem keepsContact_returnResult (result : ExecutionResult K) (raiseOnStop : Bool) :
    KeepsContact cap pre pre (returnResult result raiseOnStop) := by
  have returns : KeepsContact cap pre pre
      (FlexivControl.perform (.chunkReturns result.success result.stopReason) : RobotM K _) :=
    .perform fun _ => trivial
  apply returns.bind _ fun _ => id
  intro _
  split
  · exact .throw _
  · exact .pure _

theorem keepsContact_abortAtEntry (raiseOnStop : Bool) :
    KeepsContact cap pre pre (abortAtEntry raiseOnStop) :=
  keepsContact_cancelClear.bind (fun _ => keepsContact_getState.bind
    (fun _ => keepsContact_returnResult _ raiseOnStop) fun _ => id) fun _ => id

theorem keepsContact_verifyChunkProfile (requested : String) (result : ExecutionResult K) :
    KeepsContact cap pre pre (verifyChunkProfile requested result) := by
  intro robot last holds
  unfold verifyChunkProfile
  rw [wp_bind, wp_get, afterStep_ok]
  dsimp only
  split
  · exact holds
  · exact holds

end Guard

/-! ### The Cartesian executor -/

theorem keepsContact_cartesianTick (chunk : CartesianChunk K) (cap : Wrench K) (t0 : K)
    (sp : CartesianSetpoint K) (run : ChunkRun K) :
    KeepsContact cap AnyRobot AnyRobot (cartesianTick chunk cap t0 sp run) := by
  unfold cartesianTick
  dsimp only
  apply (keepsContact_cancelIsSet .tick).bind _ fun _ => id
  intro cancelled
  split
  · exact keepsContact_cancelTick.bind (fun _ => .pure _) fun _ => id
  · apply keepsContact_gate _ fun _ => id
    intro state robot _
    apply wp_inFault_of _ trivial
    intro faulted
    split
    · exact keepsContact_halt _ _ _ trivial
    · split
      · exact keepsContact_halt _ _ _ trivial
      · rename_i light
        rw [wp_bind, wp_filterCartesian, afterStep_ok]
        split
        · apply wp_stream_of (Bool.eq_false_iff.mpr light) _ trivial
          exact (KeepsContact.of_quiet (uses_afterStream chunk t0 sp state _ _)).bind
            (fun _ => .pure _) fun _ => id
        · exact keepsContact_halt _ _ _ trivial

theorem keepsContact_cartesianTicks (chunk : CartesianChunk K) (cap : Wrench K) (t0 : K)
    (setpoints : List (CartesianSetpoint K)) :
    ∀ run, KeepsContact cap AnyRobot AnyRobot (cartesianTicks chunk cap t0 setpoints run) := by
  induction setpoints with
  | nil => exact fun run => .pure run
  | cons sp rest ih =>
      intro run
      apply (keepsContact_cartesianTick chunk cap t0 sp run).bind _ fun _ => id
      intro out
      obtain ⟨run, goOn⟩ := out
      cases goOn with
      | true => exact ih run
      | false => exact .pure run

theorem keepsContact_guardedTicks (chunk : CartesianChunk K) (cap : Wrench K) (relaxed : Bool)
    (t0 : K) (setpoints : List (CartesianSetpoint K)) (run : ChunkRun K) :
    KeepsContact cap AnyRobot AnyRobot (guardedTicks chunk cap relaxed t0 setpoints run) := by
  have body : KeepsContact cap AnyRobot AnyRobot (do
      let run ← cartesianTicks chunk cap t0 setpoints run
      let run ← resolvePending chunk run
      pure (Except.ok run : Except Exc (ChunkRun K))) :=
    (keepsContact_cartesianTicks chunk cap t0 setpoints run).bind (fun run =>
      (KeepsContact.of_quiet (uses_resolvePending chunk run)).bind (fun _ => .pure _) fun _ => id)
      fun _ => id
  have restore (run : ChunkRun K) :
      KeepsContact cap AnyRobot AnyRobot (restoreWrenchLimit relaxed run) :=
    .of_quiet (uses_restoreWrenchLimit relaxed run)
  have caught : KeepsContact cap AnyRobot AnyRobot (tryCatch (do
      let run ← cartesianTicks chunk cap t0 setpoints run
      let run ← resolvePending chunk run
      pure (Except.ok run : Except Exc (ChunkRun K))) fun e => pure (.error e)) := by
    intro robot last holds
    rw [wp_tryCatch]
    apply wp_mono (body robot last holds)
    intro out robot' last' _
    cases out <;> trivial
  unfold guardedTicks
  apply caught.bind _ fun _ => id
  intro outcome
  cases outcome with
  | ok run => exact restore run
  | error e => exact (restore run).bind (fun _ => .throw e) fun _ => id

theorem resolveToAbsolute_clauses {chunk resolved : CartesianChunk K} {start : Pose K}
    (made : chunk.resolveToAbsolute start = .ok resolved) :
    resolved.maxContactWrench = chunk.maxContactWrench ∧
      resolved.contactWrenchAllowance = chunk.contactWrenchAllowance := by
  unfold CartesianChunk.resolveToAbsolute at made
  split at made
  · cases made
    exact ⟨rfl, rfl⟩
  · split at made
    · cases made
    · cases made
      exact ⟨rfl, rfl⟩

theorem forExecution_clauses {chunk resolved : CartesianChunk K} {start : Pose K}
    (made : chunk.forExecution start = .ok resolved) :
    resolved.maxContactWrench = chunk.maxContactWrench ∧
      resolved.contactWrenchAllowance = chunk.contactWrenchAllowance := by
  unfold CartesianChunk.forExecution at made
  obtain ⟨absolute, resolves, cut⟩ := Except.of_bind_ok made
  have same := resolveToAbsolute_clauses resolves
  dsimp only at cut
  split at cut
  · cases cut
    exact same
  · cases cut
    exact same

theorem forExecution_granted {chunk resolved : CartesianChunk K} {start : Pose K}
    (made : chunk.forExecution start = .ok resolved) (profile : SafetyProfile K) :
    grantedAllowance profile resolved = grantedAllowance profile chunk := by
  unfold grantedAllowance
  rw [(forExecution_clauses made).2]

theorem forExecution_wrenchCap {chunk resolved : CartesianChunk K} {start : Pose K}
    (made : chunk.forExecution start = .ok resolved) (profile : SafetyProfile K) :
    effectiveWrenchCap profile resolved = effectiveWrenchCap profile chunk := by
  unfold effectiveWrenchCap
  rw [forExecution_granted made profile, (forExecution_clauses made).1]

theorem keepsContact_startCartesianImpedance {cap : Wrench K} {pre : Robot K → Prop}
    (impedance : Option (ImpedanceParams K)) :
    KeepsContact cap pre pre (startCartesianImpedance impedance) := by
  intro robot last holds
  unfold startCartesianImpedance
  rw [wp_bind, wp_get, afterStep_ok]
  exact KeepsContact.backend rfl robot last holds

theorem keepsContact_ensureCartesianStart {cap : Wrench K} {pre : Robot K → Prop}
    (chunk : CartesianChunk K) (result : ExecutionResult K) :
    KeepsContact cap pre pre (ensureCartesianStart chunk result) := by
  apply keepsContact_getState.bind _ fun _ => id
  intro start
  split
  · exact .pure _
  · exact (keepsContact_startCartesianImpedance _).bind (fun _ =>
      keepsContact_getState.bind (fun _ => .pure _) fun _ => id) fun _ => id

theorem keepsContact_armWrenchLimit {cap : Wrench K} {pre : Robot K → Prop} (relaxed : Bool)
    (wrenchCap : Wrench K) : KeepsContact cap pre pre (armWrenchLimit relaxed wrenchCap) := by
  unfold armWrenchLimit
  split
  · exact .backend rfl
  · exact .pure ()

theorem keepsContact_runCartesianChunk (chunk : CartesianChunk K) (raiseOnStop record : Bool)
    (profile : SafetyProfile K) :
    KeepsContact (effectiveWrenchCap profile chunk) (fun robot => robot.profile = profile) AnyRobot
      (runCartesianChunk chunk raiseOnStop record) := by
  apply (keepsContact_verifyChunkProfile _ _).bind _ fun _ _ => trivial
  intro result
  apply (keepsContact_ensureCartesianStart chunk result).bind _ fun _ _ => trivial
  rintro ⟨start, result⟩ robot last same
  rw [wp_bind, wp_resetFilter, afterStep_ok, wp_bind, wp_attempt]
  cases made : chunk.forExecution start.tcpPose with
  | error e => trivial
  | ok resolved =>
      rw [afterStep_ok, wp_bind, wp_get, afterStep_ok]
      dsimp only
      rw [same, ← forExecution_wrenchCap made profile]
      generalize effectiveWrenchCap profile resolved = cap
      have rest (run : ChunkRun K) : KeepsContact cap AnyRobot AnyRobot (do
          let final ← getState
          returnResult (run.report start final) raiseOnStop) :=
        keepsContact_getState.bind (fun _ => keepsContact_returnResult _ raiseOnStop) fun _ => id
      apply (keepsContact_armWrenchLimit _ cap).bind _ (fun _ => id)
      · trivial
      · intro _
        apply keepsContact_perfCounter.bind _ fun _ => id
        intro t0
        exact (keepsContact_guardedTicks _ _ _ _ _ _).bind rest fun _ => id

theorem executeCartesianChunk_guarded (robot : Robot K) (chunk : CartesianChunk K)
    (raiseOnStop record : Bool) {calls : List (Call (effects K))}
    {q : Program (effects K) (Except Exc (ExecutionResult K) × Robot K)}
    (ran : Trace (executeCartesianChunk chunk raiseOnStop record robot) calls q) :
    ContactGuarded (effectiveWrenchCap robot.profile chunk) calls := by
  have kept : KeepsContact (effectiveWrenchCap robot.profile chunk)
      (fun r => r.profile = robot.profile) AnyRobot
      (executeCartesianChunk chunk raiseOnStop record) := by
    apply keepsContact_checkLease.bind _ fun _ _ => trivial
    intro _
    apply (keepsContact_cancelIsSet .entry).bind _ fun _ _ => trivial
    intro cancelled
    split
    · intro r last _
      exact keepsContact_abortAtEntry raiseOnStop r last trivial
    · exact keepsContact_runCartesianChunk chunk raiseOnStop record robot.profile
  exact kept.guarded rfl ran

/-! ### The joint executor -/

def OnProfile (profile : SafetyProfile K) (robot : Robot K) : Prop := robot.profile = profile

theorem keepsContact_jointTick (profile : SafetyProfile K) (q : List K)
    (result : ExecutionResult K) :
    KeepsContact profile.maxContactWrench (OnProfile profile) (OnProfile profile)
      (jointTick q result) := by
  unfold jointTick
  apply (keepsContact_cancelIsSet .tick).bind _ fun _ => id
  intro cancelled
  split
  · exact keepsContact_cancelTick.bind (fun _ => .pure _) fun _ => id
  · apply keepsContact_gate _ fun _ => id
    intro state robot same
    apply wp_inFault_of _ same
    intro faulted
    split
    · exact keepsContact_halt _ _ _ same
    · rw [wp_bind, wp_get, afterStep_ok, same]
      split
      · exact keepsContact_halt _ _ _ same
      · rename_i light
        unfold filterJoint
        simp only [wp_bind, wp_get, afterStep_ok, wp_attempt]
        cases filtered : robot.filter.filterJoint q state with
        | error e => exact same
        | ok out =>
            obtain ⟨sr, filter⟩ := out
            simp only [afterStep_ok, wp_bind, wp_set, wp_pure]
            split
            · exact wp_stream_of (Bool.eq_false_iff.mpr light) (.pure _) same
            · exact keepsContact_halt _ _ _ same

theorem keepsContact_jointTicks (profile : SafetyProfile K)
    (setpoints : List (Except Exc (List K))) :
    ∀ result, KeepsContact profile.maxContactWrench (OnProfile profile) (OnProfile profile)
      (jointTicks setpoints result) := by
  induction setpoints with
  | nil => exact fun result => .pure result
  | cons next rest ih =>
      intro result
      apply (KeepsContact.attempt next).bind _ fun _ => id
      intro q
      apply (keepsContact_jointTick profile q result).bind _ fun _ => id
      intro out
      obtain ⟨result, goOn⟩ := out
      cases goOn with
      | true => exact ih result
      | false => exact .pure result

theorem keepsContact_ensureJointStart {cap : Wrench K} {pre : Robot K → Prop}
    (result : ExecutionResult K) : KeepsContact cap pre pre (ensureJointStart result) := by
  have mode : KeepsContact cap pre pre (startJointImpedance : RobotM K Unit) :=
    KeepsContact.backend rfl
  apply keepsContact_getState.bind _ fun _ => id
  intro start
  split
  · exact mode.bind (fun _ => keepsContact_getState.bind (fun _ => .pure _) fun _ => id) fun _ => id
  · exact .pure _

theorem keepsContact_runJointChunk (profile : SafetyProfile K) (chunk : JointChunk K)
    (raiseOnStop : Bool) :
    KeepsContact profile.maxContactWrench (OnProfile profile) (OnProfile profile)
      (runJointChunk chunk raiseOnStop) := by
  apply (keepsContact_verifyChunkProfile _ _).bind _ fun _ => id
  intro result
  apply (keepsContact_ensureJointStart result).bind _ fun _ => id
  rintro ⟨start, result⟩ robot last same
  rw [wp_bind, wp_resetFilter, afterStep_ok, wp_bind, wp_get, afterStep_ok]
  have ticks (setpoints : List (Except Exc (List K))) :
      KeepsContact profile.maxContactWrench (OnProfile profile) (OnProfile profile) (do
        let _ ← perfCounter
        let result ← jointTicks setpoints result
        let final ← getState
        returnResult { result with finalState := some final } raiseOnStop) :=
    keepsContact_perfCounter.bind (fun _ => (keepsContact_jointTicks profile setpoints result).bind
      (fun _ => keepsContact_getState.bind (fun _ => keepsContact_returnResult _ raiseOnStop)
        fun _ => id) fun _ => id) fun _ => id
  exact ticks _ _ _ same

theorem executeJointChunk_guarded (robot : Robot K) (chunk : JointChunk K) (raiseOnStop : Bool)
    {calls : List (Call (effects K))}
    {q : Program (effects K) (Except Exc (ExecutionResult K) × Robot K)}
    (ran : Trace (executeJointChunk chunk raiseOnStop robot) calls q) :
    ContactGuarded robot.profile.maxContactWrench calls := by
  have kept : KeepsContact robot.profile.maxContactWrench (OnProfile robot.profile)
      (OnProfile robot.profile) (executeJointChunk chunk raiseOnStop) := by
    apply keepsContact_checkLease.bind _ fun _ => id
    intro _
    apply (keepsContact_cancelIsSet .entry).bind _ fun _ => id
    intro cancelled
    split
    · exact keepsContact_abortAtEntry raiseOnStop
    · exact keepsContact_runJointChunk robot.profile chunk raiseOnStop
  exact kept.guarded rfl ran

end FlexivControl
