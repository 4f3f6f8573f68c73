/-
The allowance a chunk requests and what the profile grants of it.

Everything after the clamp sees the granted part alone, so two chunks that are granted
the same are one program. A cap that is not a number makes the test of its axis false, and
then setpoints go out under any load.
-/

import FlexivControl.Library.Ieee
import FlexivControl.Robot.Untouched

namespace FlexivControl

open Script

section Requests

variable {K : Type} [Scalar K]

/-- The chunk with another allowance request. -/
def CartesianChunk.requesting (chunk : CartesianChunk K) (request : Option (Wrench K))
    (nonneg : ∀ a ∈ request, ∀ axis, ¬ a axis < 0) : CartesianChunk K :=
  { chunk with contactWrenchAllowance := request, allowanceNonneg := nonneg }

variable {request : Option (Wrench K)} {nonneg : ∀ a ∈ request, ∀ axis, ¬ a axis < 0}

theorem cartesianTicks_requesting (chunk : CartesianChunk K) (cap : Wrench K) (t0 : K)
    (setpoints : List (CartesianSetpoint K)) (run : ChunkRun K) :
    cartesianTicks (chunk.requesting request nonneg) cap t0 setpoints run =
      cartesianTicks chunk cap t0 setpoints run := by
  induction setpoints generalizing run with
  | nil => rfl
  | cons sp rest ih =>
      have tick : cartesianTick (chunk.requesting request nonneg) cap t0 sp run =
          cartesianTick chunk cap t0 sp run := rfl
      unfold cartesianTicks
      rw [tick]
      apply bind_congr
      rintro ⟨run', goOn⟩
      cases goOn with
      | true => exact ih run'
      | false => rfl

theorem guardedTicks_requesting (chunk : CartesianChunk K) (cap : Wrench K) (relaxed : Bool)
    (t0 : K) (setpoints : List (CartesianSetpoint K)) (run : ChunkRun K) :
    guardedTicks (chunk.requesting request nonneg) cap relaxed t0 setpoints run =
      guardedTicks chunk cap relaxed t0 setpoints run := by
  have pending (run' : ChunkRun K) : resolvePending (chunk.requesting request nonneg) run' =
      resolvePending chunk run' := rfl
  unfold guardedTicks
  simp only [cartesianTicks_requesting, pending]

theorem executorInterpolator_requesting (chunk : CartesianChunk K) (start : Pose K)
    (profile : SafetyProfile K) (hz : K) :
    (executorInterpolator (chunk.requesting request nonneg) start profile hz).setpoints =
      (executorInterpolator chunk start profile hz).setpoints := by
  have inside (waypoints : List (CartesianWaypoint K)) : ∀ pos quat index,
      (executorInterpolator (chunk.requesting request nonneg) start profile hz).setpointsFrom
        pos quat index waypoints =
      (executorInterpolator chunk start profile hz).setpointsFrom pos quat index waypoints := by
    induction waypoints with
    | nil => exact fun _ _ _ => rfl
    | cons wp rest ih =>
        intro pos quat index
        exact congrArg (_ ++ ·) (ih wp.position (wp.quaternion.getD quat) (index + 1))
  exact inside _ _ _ _

theorem resolveToAbsolute_requesting (chunk : CartesianChunk K) (start : Pose K) :
    (chunk.requesting request nonneg).resolveToAbsolute start =
      (chunk.resolveToAbsolute start).map (·.requesting request nonneg) := by
  have same : (chunk.requesting request nonneg).representation = chunk.representation := rfl
  unfold CartesianChunk.resolveToAbsolute
  rw [same]
  cases chunk.representation with
  | absolute => rfl
  | relativeToStart =>
      dsimp only
      split
      · rename_i e failed
        have failed : chunk.waypoints.mapM (CartesianWaypoint.toAbsolute start) = .error e := failed
        split
        · rename_i e' failed'
          rw [failed] at failed'
          cases failed'
          rfl
        · rename_i waypoints found
          rw [failed] at found
          cases found
      · rename_i waypoints found
        have found : chunk.waypoints.mapM (CartesianWaypoint.toAbsolute start) = .ok waypoints :=
          found
        split
        · rename_i e failed
          rw [found] at failed
          cases failed
        · rename_i waypoints' found'
          rw [found] at found'
          cases found'
          rfl

theorem forExecution_requesting (chunk : CartesianChunk K) (start : Pose K) :
    (chunk.requesting request nonneg).forExecution start =
      (chunk.forExecution start).map (·.requesting request nonneg) := by
  unfold CartesianChunk.forExecution
  rw [resolveToAbsolute_requesting]
  cases chunk.resolveToAbsolute start with
  | error e => rfl
  | ok resolved =>
      dsimp only [Except.map, bind, Except.bind]
      change (if chunk.horizonExec ≥ resolved.waypoints.length then _ else _) = _
      split
      · rfl
      · rfl

end Requests

section Leaves

variable {K : Type} [Scalar K]

theorem leavesMemory_getState : LeavesMemory (getState : RobotM K (RobotState K)) := by
  have read : LeavesMemory (readState : RobotM K (RobotState K)) := by
    apply (leavesMemory_perform _).bind
    intro answer
    cases answer with
    | ok state => exact leavesMemory_pure state
    | error e => exact leavesMemory_throw e
  exact read.bind fun _ => (leavesMemory_perform _).bind fun _ => leavesMemory_pure _

theorem leavesMemory_verifyChunkProfile (requested : String) (result : ExecutionResult K) :
    LeavesMemory (verifyChunkProfile requested result) := by
  apply leavesMemory_get.bind
  intro robot
  dsimp only
  split
  · exact leavesMemory_throw _
  · exact leavesMemory_pure _

theorem leavesMemory_backend (call : BackendCall K) : LeavesMemory (backend call) := by
  apply (leavesMemory_perform _).bind
  intro answer
  cases answer with
  | ok _ => exact leavesMemory_pure ()
  | error e => exact leavesMemory_throw e

theorem leavesMemory_ensureCartesianStart (chunk : CartesianChunk K) (result : ExecutionResult K) :
    LeavesMemory (ensureCartesianStart chunk result) := by
  apply leavesMemory_getState.bind
  intro start
  split
  · exact leavesMemory_pure _
  · have started : LeavesMemory (startCartesianImpedance (some chunk.impedance)) :=
      leavesMemory_get.bind fun _ => leavesMemory_backend _
    exact started.bind fun _ => leavesMemory_getState.bind fun _ => leavesMemory_pure _

theorem leavesMemory_tryFireClose (chunk : CartesianChunk K) (run : ChunkRun K)
    (g : GripperCommand K) (state : RobotState K) :
    LeavesMemory (tryFireClose chunk run g state) := by
  unfold tryFireClose
  dsimp only
  split
  · split
    · exact leavesMemory_pure _
    · exact leavesMemory_pure _
  · exact (leavesMemory_backend _).bind fun _ => leavesMemory_pure _

theorem leavesMemory_firePending (chunk : CartesianChunk K) (run : ChunkRun K)
    (state : RobotState K) : LeavesMemory (firePending chunk run state) := by
  unfold firePending
  split
  · exact leavesMemory_pure _
  · split
    · exact leavesMemory_tryFireClose chunk _ _ state
    · exact leavesMemory_pure _

theorem leavesMemory_gripperPhase (chunk : CartesianChunk K) (controlHz : K)
    (sp : CartesianSetpoint K) (run : ChunkRun K) (state : RobotState K) :
    LeavesMemory (gripperPhase chunk controlHz sp run state) := by
  have settles : LeavesMemory (settleFirst chunk run state) := by
    unfold settleFirst
    split
    · exact leavesMemory_pure _
    · exact leavesMemory_tryFireClose chunk _ _ state
  unfold gripperPhase
  split
  · exact leavesMemory_pure _
  · unfold handleGripper
    dsimp only
    split
    · split
      · exact leavesMemory_pure _
      · exact settles.bind fun _ => leavesMemory_pure _
    · exact (leavesMemory_backend _).bind fun _ => leavesMemory_pure _

theorem leavesMemory_afterStream (chunk : CartesianChunk K) (t0 : K) (sp : CartesianSetpoint K)
    (state : RobotState K) (pose : Pose K) (run : ChunkRun K) :
    LeavesMemory (afterStream chunk t0 sp state pose run) := by
  have records (run : ChunkRun K) : LeavesMemory (recordRow t0 pose state run) := by
    unfold recordRow
    split
    · exact leavesMemory_pure _
    · exact (leavesMemory_perform _).bind fun _ => leavesMemory_pure _
  exact leavesMemory_get.bind fun _ => (leavesMemory_firePending chunk run state).bind fun _ =>
    (leavesMemory_gripperPhase chunk _ sp _ state).bind fun _ =>
      (records _).bind fun _ => leavesMemory_pure _

theorem leavesMemory_checkLease : LeavesMemory (checkLease : RobotM K Unit) := by
  apply (leavesMemory_perform _).bind
  intro owner
  cases owner with
  | none => exact leavesMemory_perform _
  | some _ => exact leavesMemory_pure ()

theorem resetFilter_bind {α : Type} (state : RobotState K) (f : PUnit → RobotM K α)
    (robot : Robot K) : (resetFilter state >>= f) robot =
      f ⟨⟩ { robot with filter := robot.filter.reset (some state) } := rfl

theorem attempt_bind {α β : Type} (a : α) (f : α → RobotM K β) :
    (attempt (.ok a) >>= f) = f a := rfl

theorem get_bind {α : Type} (f : Robot K → RobotM K α) (robot : Robot K) :
    ((get : RobotM K (Robot K)) >>= f) robot = f robot robot := rfl

end Leaves

/-! ### What the request comes to -/

section Granted

variable {K : Type} [Scalar K]

/-- The request, none counting as zero, clamped to what the profile grants. -/
def clampedRequest (profile : SafetyProfile K) (request : Option (Wrench K)) : Wrench K :=
  fun axis => Scalar.minimum ((request.getD fun _ => 0) axis) (profile.maxWrenchAllowance axis)

variable {profile : SafetyProfile K} {request request' : Option (Wrench K)}
  {nonneg : ∀ a ∈ request, ∀ axis, ¬ a axis < 0} {nonneg' : ∀ a ∈ request', ∀ axis, ¬ a axis < 0}

theorem effectiveWrenchCap_congr {chunk : CartesianChunk K}
    (same : grantedAllowance profile (chunk.requesting request nonneg) =
      grantedAllowance profile (chunk.requesting request' nonneg')) :
    effectiveWrenchCap profile (chunk.requesting request nonneg) =
      effectiveWrenchCap profile (chunk.requesting request' nonneg') := by
  unfold effectiveWrenchCap
  rw [same]
  rfl

theorem runCartesianChunk_congr (robot : Robot K) (chunk : CartesianChunk K)
    (raiseOnStop record : Bool)
    (same : grantedAllowance robot.profile (chunk.requesting request nonneg) =
      grantedAllowance robot.profile (chunk.requesting request' nonneg')) :
    runCartesianChunk (chunk.requesting request nonneg) raiseOnStop record robot =
      runCartesianChunk (chunk.requesting request' nonneg') raiseOnStop record robot := by
  apply (leavesMemory_verifyChunkProfile chunk.safetyProfile {}).bind_congr
  intro result
  apply (leavesMemory_ensureCartesianStart chunk result).bind_congr
  rintro ⟨start, result⟩
  dsimp only
  rw [forExecution_requesting, forExecution_requesting]
  cases chunk.forExecution start.tcpPose with
  | error e => rfl
  | ok resolved =>
      have mapped (request : Option (Wrench K)) (nonneg : ∀ a ∈ request, ∀ axis, ¬ a axis < 0) :
          (Except.ok resolved : Except Exc _).map (·.requesting request nonneg) =
            .ok (resolved.requesting request nonneg) := rfl
      rw [mapped, mapped, resetFilter_bind, resetFilter_bind, attempt_bind, attempt_bind, get_bind,
        get_bind]
      dsimp only
      -- the grant reads the request alone, so it is that of the unresolved chunk
      have grants : grantedAllowance robot.profile (resolved.requesting request nonneg) =
          grantedAllowance robot.profile (resolved.requesting request' nonneg') := same
      rw [grants, effectiveWrenchCap_congr grants, executorInterpolator_requesting,
        executorInterpolator_requesting]
      simp only [guardedTicks_requesting]
      rfl

theorem executeCartesianChunk_congr (robot : Robot K) (chunk : CartesianChunk K)
    (raiseOnStop record : Bool)
    (same : grantedAllowance robot.profile (chunk.requesting request nonneg) =
      grantedAllowance robot.profile (chunk.requesting request' nonneg')) :
    executeCartesianChunk (chunk.requesting request nonneg) raiseOnStop record robot =
      executeCartesianChunk (chunk.requesting request' nonneg') raiseOnStop record robot := by
  apply leavesMemory_checkLease.bind_congr
  intro _
  apply (leavesMemory_perform _).bind_congr
  intro cancelled
  cases cancelled with
  | true => rfl
  | false => exact runCartesianChunk_congr robot chunk raiseOnStop record same

theorem grantedAllowance_some {chunk : CartesianChunk K} {allow : Wrench K}
    (granted : grantedAllowance profile chunk = some allow) :
    allow = clampedRequest profile chunk.contactWrenchAllowance ∧
      ∃ axis, 0 < clampedRequest profile chunk.contactWrenchAllowance axis := by
  unfold grantedAllowance at granted
  cases asked : chunk.contactWrenchAllowance with
  | none =>
      rw [asked] at granted
      cases granted
  | some request =>
      rw [asked] at granted
      dsimp only at granted
      split at granted
      · rename_i some
        obtain ⟨axis, _, positive⟩ := List.any_eq_true.mp some
        exact ⟨(Option.some.inj granted).symm, axis, of_decide_eq_true positive⟩
      · cases granted

end Granted

section Clamped

open Ieee

variable {profile : SafetyProfile Ieee} {request request' : Option (Wrench Ieee)}
  {nonneg : ∀ a ∈ request, ∀ axis, ¬ a axis < 0} {nonneg' : ∀ a ∈ request', ∀ axis, ¬ a axis < 0}

theorem clampedRequest_none (headroom : ∀ axis, 0 ≤ profile.maxWrenchAllowance axis)
    (axis : Fin cartDof) : clampedRequest profile none axis = 0 :=
  minimum_eq_left (headroom axis)

theorem grantedAllowance_requesting (headroom : ∀ axis, 0 ≤ profile.maxWrenchAllowance axis)
    (chunk : CartesianChunk Ieee) :
    grantedAllowance profile (chunk.requesting request nonneg) =
      if (List.finRange cartDof).any fun axis => decide (0 < clampedRequest profile request axis)
        then some (clampedRequest profile request) else none := by
  cases request with
  | some a => rfl
  | none =>
      have ungranted : ((List.finRange cartDof).any fun axis =>
          decide (0 < clampedRequest profile none axis)) = false := by
        rw [List.any_eq_false]
        intro axis _
        rw [decide_eq_true_eq, clampedRequest_none headroom]
        exact not_pos_of_le_zero (le_self (number_fin 0))
      rw [ungranted]
      rfl

theorem grantedAllowance_congr (headroom : ∀ axis, 0 ≤ profile.maxWrenchAllowance axis)
    (chunk : CartesianChunk Ieee)
    (same : clampedRequest profile request = clampedRequest profile request') :
    grantedAllowance profile (chunk.requesting request nonneg) =
      grantedAllowance profile (chunk.requesting request' nonneg') := by
  rw [grantedAllowance_requesting headroom, grantedAllowance_requesting headroom, same]

/-- Where nothing may be granted, a request is worth nothing, be it a number or not. -/
theorem grantedAllowance_ungranted (ungranted : ∀ axis, profile.maxWrenchAllowance axis = 0)
    (chunk : CartesianChunk Ieee) : grantedAllowance profile chunk = none := by
  cases granted : grantedAllowance profile chunk with
  | none => rfl
  | some allow =>
      obtain ⟨_, axis, positive⟩ := grantedAllowance_some granted
      have least : clampedRequest profile chunk.contactWrenchAllowance axis ≤ 0 := by
        rw [← ungranted axis]
        exact (minimum_number (ne_nan_of_pos positive)).2.2.2
      exact absurd positive (not_pos_of_le_zero least)

/-! ### The bound and the tests -/

/-- The profile's cap with all it may grant, and the chunk's own. -/
structure WrenchBounded (profile : SafetyProfile Ieee) (chunk : CartesianChunk Ieee)
    (wrench : Wrench Ieee) (axis : Fin cartDof) : Prop where
  granted : Scalar.abs (wrench axis) ≤
    profile.maxContactWrench axis + profile.maxWrenchAllowance axis
  own : ∀ own, chunk.maxContactWrench = some own → Scalar.abs (wrench axis) ≤ own axis

/-- What the profile allows on the axis and what the chunk allows itself are numbers. -/
structure CapsNumbered (profile : SafetyProfile Ieee) (chunk : CartesianChunk Ieee)
    (axis : Fin cartDof) : Prop where
  profile : profile.maxContactWrench axis ≠ nan
  own : ∀ own, chunk.maxContactWrench = some own → own axis ≠ nan

/-- Of an allowance that is granted on any axis, this axis' share is a number, and it adds up
with the cap. -/
def GrantNumbered (profile : SafetyProfile Ieee) (chunk : CartesianChunk Ieee)
    (axis : Fin cartDof) : Prop :=
  (∃ other, 0 < clampedRequest profile chunk.contactWrenchAllowance other) →
    profile.maxContactWrench axis + clampedRequest profile chunk.contactWrenchAllowance axis ≠ nan

theorem wrenchBounded_of_tested (headroom : ∀ axis, 0 ≤ profile.maxWrenchAllowance axis)
    {chunk : CartesianChunk Ieee} {wrench : Wrench Ieee} {axis : Fin cartDof}
    (caps : CapsNumbered profile chunk axis) (grant : GrantNumbered profile chunk axis)
    (measured : wrench axis ≠ nan)
    (light : ¬ effectiveWrenchCap profile chunk axis < Scalar.abs (wrench axis)) :
    WrenchBounded profile chunk wrench axis := by
  have number := abs_ne_nan measured
  have upward := zero_le_abs measured
  -- the cap before the chunk's own
  have loosened : ∃ base, base ≠ nan ∧ (Scalar.abs (wrench axis) ≤ base →
        Scalar.abs (wrench axis) ≤
          profile.maxContactWrench axis + profile.maxWrenchAllowance axis) ∧
      (chunk.maxContactWrench = none → effectiveWrenchCap profile chunk axis = base) ∧
      ∀ own, chunk.maxContactWrench = some own →
        effectiveWrenchCap profile chunk axis = Scalar.minimum base (own axis) := by
    unfold effectiveWrenchCap
    cases granted : grantedAllowance profile chunk with
    | none =>
        refine ⟨profile.maxContactWrench axis, caps.profile, ?_, ?_⟩
        · intro within
          rw [← add_fin_zero (profile.maxContactWrench axis)] at within
          exact le_add_of_le upward within (headroom axis)
        · constructor
          · intro free
            rw [free]
          · intro own given
            rw [given]
    | some allow =>
        obtain ⟨same, positive⟩ := grantedAllowance_some granted
        subst same
        have sum := grant positive
        have share : clampedRequest profile chunk.contactWrenchAllowance axis ≠ nan := by
          intro none
          rw [none, add_nan] at sum
          exact sum rfl
        refine ⟨_, sum, ?_, ?_⟩
        · intro within
          exact le_add_of_le upward within (minimum_number share).2.2.2
        · constructor
          · intro free
            rw [free]
          · intro own given
            rw [given]
  obtain ⟨base, found, within, free, capped⟩ := loosened
  cases own : chunk.maxContactWrench with
  | none =>
      rw [free own] at light
      refine ⟨within (le_of_not_above number found light), ?_⟩
      intro own' impossible
      rw [own] at impossible
      cases impossible
  | some own' =>
      rw [capped own' own] at light
      have least := minimum_ne_nan found (caps.own own' own)
      have below := le_of_not_above number least light
      obtain ⟨_, _, first, second⟩ := minimum_number least
      refine ⟨within (le_chain below first), ?_⟩
      intro own'' same
      rw [own] at same
      cases same
      exact le_chain below second

theorem WrenchBounded.numbers {chunk : CartesianChunk Ieee} {wrench : Wrench Ieee}
    {axis : Fin cartDof} (bounded : WrenchBounded profile chunk wrench axis) :
    wrench axis ≠ nan ∧ CapsNumbered profile chunk axis := by
  refine ⟨?_, ?_, ?_⟩
  · intro none
    have within := bounded.granted
    rw [none, abs_nan] at within
    exact not_nan_le _ within
  · intro none
    have within := bounded.granted
    rw [none, nan_add] at within
    exact not_le_nan _ within
  · intro own given none
    have within := bounded.own own given
    rw [none] at within
    exact not_le_nan _ within

/-- Requests the profile clamps to the same grant are the same program, whatever is
answered. A setpoint leaves on a measured wrench over the profile's cap and grant or over the
chunk's own cap only where a number is missing: the reading, a cap, or the share of a grant. -/
theorem allowance_matters_through_grant (robot : Robot Ieee)
    (headroom : ∀ axis, 0 ≤ robot.profile.maxWrenchAllowance axis) (chunk : CartesianChunk Ieee)
    (raiseOnStop record : Bool) :
    (∀ request nonneg request' nonneg',
      (∀ axis, clampedRequest robot.profile request axis =
        clampedRequest robot.profile request' axis) →
      executeCartesianChunk (chunk.requesting request nonneg) raiseOnStop record robot =
        executeCartesianChunk (chunk.requesting request' nonneg') raiseOnStop record robot) ∧
    ((∀ axis, robot.profile.maxWrenchAllowance axis = 0) → ∀ request nonneg,
      executeCartesianChunk (chunk.requesting request nonneg) raiseOnStop record robot =
        executeCartesianChunk (chunk.requesting none no_allowance) raiseOnStop record robot) ∧
    ∀ calls q, Trace (executeCartesianChunk chunk raiseOnStop record robot) calls q →
      ∀ before call answer after, calls = before ++ ⟨.write call, answer⟩ :: after →
        call.setpoint ≠ none →
        ∃ state, before.foldl measured none = some state ∧ ∀ axis,
          (state.wrench axis ≠ nan ∧ CapsNumbered robot.profile chunk axis →
            GrantNumbered robot.profile chunk axis →
              WrenchBounded robot.profile chunk state.wrench axis) ∧
          (WrenchBounded robot.profile chunk state.wrench axis →
            state.wrench axis ≠ nan ∧ CapsNumbered robot.profile chunk axis) := by
  refine ⟨?_, ?_, ?_⟩
  · intro request nonneg request' nonneg' same
    apply executeCartesianChunk_congr
    exact grantedAllowance_congr headroom chunk (funext same)
  · intro ungranted request nonneg
    apply executeCartesianChunk_congr
    rw [grantedAllowance_ungranted ungranted, grantedAllowance_ungranted ungranted]
  · intro calls q ran before call answer after decomposed streams
    obtain ⟨state, last, light⟩ := executeCartesianChunk_guarded robot chunk raiseOnStop record ran
      before call answer after decomposed streams
    refine ⟨state, last, ?_⟩
    intro axis
    refine ⟨?_, WrenchBounded.numbers⟩
    intro numbers grant
    apply wrenchBounded_of_tested headroom numbers.2 grant numbers.1
    have untouched := List.any_eq_false.mp light axis (List.mem_finRange axis)
    rwa [decide_eq_true_eq] at untouched

end Clamped

section Streams

variable {K : Type} [Scalar K]

/-- Where the filter clips, a call whose reading passes the wrench test is emitted. -/
theorem filterCartesian_emits {f : SafetyFilter K} (clips : f.p.workspaceAction = .clip)
    (target : Pose K) {state : RobotState K} {cap : Wrench K}
    (light : exceeds state.wrench cap = false) :
    ∃ pose clipped reasons f', f.filterCartesian target state (some cap) =
      ({ ok := true, pose := some pose, clipped := clipped, clipReasons := reasons }, f') := by
  obtain ⟨draft, limited⟩ : ∃ draft, limitWorkspace f.p
      { target := target, clipped := false, reasons := [] } = some draft := by
    unfold limitWorkspace
    dsimp only
    split
    · exact ⟨_, rfl⟩
    · rw [clips]
      exact ⟨_, rfl⟩
  have under : exceeds state.wrench ((some cap).getD f.p.maxContactWrench) = false := light
  exact ⟨_, _, _, _, SafetyFilter.filterCartesian_of_limited under limited⟩

theorem CartesianChunkInterpolator.setpoints_cons (interp : CartesianChunkInterpolator K) :
    ∃ sp later, interp.setpoints = sp :: later := by
  obtain ⟨wp, rest, waypoints⟩ := List.exists_cons_of_ne_nil interp.chunk.nonempty
  have ticking : 0 < interp.segmentTicks interp.startPose.pos wp.position interp.startPose.quat
      (wp.quaternion.getD interp.startPose.quat) wp := by
    unfold segmentTicks
    dsimp only
    omega
  obtain ⟨n, counted⟩ := Nat.exists_eq_succ_of_ne_zero ticking.ne'
  unfold setpoints
  rw [waypoints]
  unfold setpointsFrom segment
  dsimp only
  rw [counted, List.range_succ_eq_map]
  exact ⟨_, _, rfl⟩

theorem cartesianTick_streams {robot : Robot K} {chunk : CartesianChunk K} {cap : Wrench K} {t : K}
    {sp : CartesianSetpoint K} {state : RobotState K} {pose : Pose K} {clipped : Bool}
    {reasons : List StopReason} {filter : SafetyFilter K}
    (light : exceeds state.wrench cap = false)
    (passed : robot.filter.filterCartesian sp.pose state (some cap) =
      ({ ok := true, pose := some pose, clipped := clipped, clipReasons := reasons }, filter))
    (run : ChunkRun K) :
    ∃ q, Trace (cartesianTick chunk cap t sp run robot)
      (clearCartesianTick state pose (chunkWrench chunk)) q := by
  have filtered : Trace (filterCartesian sp.pose state (some cap) robot) [] (.done
      (.ok (robot.filter.filterCartesian sp.pose state (some cap)).1, { robot with
        filter := (robot.filter.filterCartesian sp.pose state (some cap)).2 })) := .nil _
  rw [passed] at filtered
  suffices rest : ∃ q, Trace ((if exceeds state.wrench cap = true then _ else
      (filterCartesian sp.pose state (some cap) >>= _) : RobotM K (ChunkRun K × Bool)) robot)
        [⟨.write (.streamCartesian pose (chunkWrench chunk)), .ok ()⟩] q by
    exact rest.imp fun _ ran => .cons (.cons (.cons (.cons ran)))
  rw [if_neg (by rw [light]; exact Bool.false_ne_true)]
  exact ⟨_, Script.trace_silent filtered (.cons (.nil _))⟩

theorem executeCartesianChunk_streams {robot : Robot K} {chunk executed : CartesianChunk K}
    {state : RobotState K} (made : chunk.forExecution state.tcpPose = .ok executed)
    (named : chunk.safetyProfile = "" ∨ chunk.safetyProfile = robot.profile.name)
    (cartesian : state.controlMode.isCartesian = true)
    (ungranted : grantedAllowance robot.profile executed = none)
    (clips : robot.filter.p.workspaceAction = .clip)
    (light : exceeds state.wrench (effectiveWrenchCap robot.profile executed) = false) :
    ∃ pose q, Trace (executeCartesianChunk chunk false false robot)
      (cartesianOpening state ++ clearCartesianTick state pose (chunkWrench executed)) q := by
  let anchored : Robot K := { robot with filter := robot.filter.reset (some state) }
  obtain ⟨sp, later, first⟩ := (robot.interpolator executed state.tcpPose).setpoints_cons
  have keeps : anchored.filter.p.workspaceAction = .clip :=
    (congrArg (·.workspaceAction) (robot.filter.reset_p _ _ _)).trans clips
  obtain ⟨pose, clipped, reasons, filter, passed⟩ := filterCartesian_emits keeps sp.pose light
  refine ⟨pose, ?_⟩
  have ticks (run : ChunkRun K) : ∃ q, Trace (cartesianTicks executed
      (effectiveWrenchCap robot.profile executed) 0 (sp :: later) run anchored)
      (clearCartesianTick state pose (chunkWrench executed)) q :=
    Script.trace_within _ (cartesianTick_streams light passed run)
  have guarded (run : ChunkRun K) : ∃ q, Trace (guardedTicks executed
      (effectiveWrenchCap robot.profile executed) false 0 (sp :: later) run anchored)
      (clearCartesianTick state pose (chunkWrench executed)) q := by
    unfold guardedTicks
    apply Script.trace_within
    obtain ⟨q, body⟩ := Script.trace_within (fun run => do
        let run ← resolvePending executed run
        pure (Except.ok run : Except Exc (ChunkRun K))) (ticks run)
    exact ⟨_, body.bind _⟩
  have opens := executeCartesianChunk_opens made named cartesian ungranted
  rw [first] at opens
  obtain ⟨q, ran⟩ := Script.trace_within (fun run : ChunkRun K => do
      let final ← getState
      returnResult (run.report state final) false)
    (guarded { result := robot.opening chunk executed, prevPos := state.tcpPose.pos })
  exact ⟨q, opens.append ran⟩

end Streams

section Loaded

open Ieee

noncomputable def grantingRobot : Robot Ieee :=
  .init {} { ({} : SafetyProfile Ieee) with maxWrenchAllowance := fun _ => .fin 4 }
    (some (.fin 100))

noncomputable def cappedWaypoint : CartesianWaypoint Ieee where
  position := ⟨.fin (1 / 2), .fin 0, .fin (4 / 10)⟩
  quaternion := none
  gripper := none
  nFrames := some 10
  duration := none
  frame := "base"
  timed := tenFrames_timed
  framesPositive := tenFrames_positive

theorem cappedWaypoint_listed : [cappedWaypoint] ≠ [] := List.cons_ne_nil _ _

noncomputable def cappedRaise (own : Ieee) : CartesianChunk Ieee where
  waypoints := [cappedWaypoint]
  maxContactWrench := some fun _ => own
  nonempty := cappedWaypoint_listed
  allowanceNonneg := no_allowance
  gatePositive := no_gate

noncomputable def loaded (load : Ieee) : RobotState Ieee where
  stamp := 0
  tcpPose := ⟨⟨.fin (1 / 2), .fin 0, .fin (3 / 10)⟩, 1⟩
  wrench := fun _ => load
  controlMode := .nrtCartesianMotionForce

theorem grantingRobot_headroom (axis : Fin cartDof) :
    0 ≤ grantingRobot.profile.maxWrenchAllowance axis :=
  (fin_le 0 4).mpr (by norm_num)

theorem grantingRobot_cap (axis : Fin cartDof) :
    grantingRobot.profile.maxContactWrench axis = if axis.val < 3 then .fin 40 else .fin 5 := by
  change (if axis.val < 3 then Scalar.ofNat 40 else Scalar.ofNat 5 : Ieee) = _
  rw [ofNat_eq, ofNat_eq]
  norm_num

theorem cappedRaise_streams {own load : Ieee}
    (light : exceeds (loaded load).wrench
      (effectiveWrenchCap grantingRobot.profile (cappedRaise own)) = false) :
    ∃ pose q, Trace (executeCartesianChunk (cappedRaise own) false false grantingRobot)
      (cartesianOpening (loaded load) ++ clearCartesianTick (loaded load) pose none) q :=
  executeCartesianChunk_streams rfl (Or.inl rfl) rfl rfl rfl light

theorem light_of_small {own load : ℝ} (nonneg : 0 ≤ load) (small : load ≤ 5)
    (below : load ≤ own) : exceeds (loaded (.fin load)).wrench
      (effectiveWrenchCap grantingRobot.profile (cappedRaise (.fin own))) = false := by
  refine List.any_eq_false.mpr fun axis _ => ?_
  rw [decide_eq_true_eq]
  change ¬ Scalar.minimum (grantingRobot.profile.maxContactWrench axis) (fin own) <
    Scalar.abs (fin load)
  rw [grantingRobot_cap, fin_abs, Scalar.abs_real, abs_of_nonneg nonneg]
  split
  · rw [fin_minimum, fin_lt, not_lt]
    exact le_min (by linarith) below
  · rw [fin_minimum, fin_lt, not_lt]
    exact le_min small below

/-- Five and ten are worth the four that are granted, and the first setpoint goes out under a
load inside the bound. -/
theorem allowance_matters_through_grant_raise :
    (∃ five ten, executeCartesianChunk ((cappedRaise (.fin 20)).requesting
        (some fun _ => .fin 5) five) false true grantingRobot =
      executeCartesianChunk ((cappedRaise (.fin 20)).requesting
        (some fun _ => .fin 10) ten) false true grantingRobot) ∧
    ∃ pose q, Trace (executeCartesianChunk (cappedRaise (.fin 20)) false false grantingRobot)
        (cartesianOpening (loaded (.fin 3)) ++ clearCartesianTick (loaded (.fin 3)) pose none) q ∧
      ∀ axis, WrenchBounded grantingRobot.profile (cappedRaise (.fin 20))
        (loaded (.fin 3)).wrench axis := by
  have asks (x : ℝ) (nonneg : 0 ≤ x) :
      ∀ a ∈ some (fun _ : Fin cartDof => fin x), ∀ axis, ¬ a axis < 0 := by
    intro a asked axis below
    cases asked
    exact absurd ((fin_lt x 0).mp below) (not_lt.mpr nonneg)
  constructor
  · refine ⟨asks 5 (by norm_num), asks 10 (by norm_num), ?_⟩
    apply (allowance_matters_through_grant grantingRobot grantingRobot_headroom
      (cappedRaise (.fin 20)) false true).1
    intro axis
    change Scalar.minimum (fin 5) (fin 4) = Scalar.minimum (fin 10) (fin 4)
    rw [fin_minimum, fin_minimum]
    norm_num
  · obtain ⟨pose, q, ran⟩ := cappedRaise_streams (light_of_small
      (by norm_num : (0 : ℝ) ≤ 3) (by norm_num) (by norm_num : (3 : ℝ) ≤ 20))
    refine ⟨pose, q, ran, ?_⟩
    intro axis
    obtain ⟨state, last, bounds⟩ := (allowance_matters_through_grant grantingRobot
      grantingRobot_headroom (cappedRaise (.fin 20)) false false).2.2 _ q ran
      (cartesianOpening (loaded (.fin 3)) ++ [⟨.cancelIsSet .tick, false⟩,
        ⟨.readState, .ok (loaded (.fin 3))⟩, ⟨.publishState (loaded (.fin 3)), ()⟩,
        ⟨.inFault, .ok false⟩]) (.streamCartesian pose none) (.ok ()) [] rfl
      (Option.some_ne_none _)
    have same : loaded (.fin 3) = state := Option.some.inj last
    subst same
    refine (bounds axis).1 ⟨number_fin 3, ?_, ?_⟩ ?_
    · rw [grantingRobot_cap]
      split
      · exact number_fin 40
      · exact number_fin 5
    · intro own given
      cases given
      exact number_fin 20
    · rintro ⟨other, positive⟩
      rw [show (cappedRaise (.fin 20)).contactWrenchAllowance = none from rfl,
        clampedRequest_none grantingRobot_headroom] at positive
      exact absurd positive (not_pos_of_le_zero (le_self (number_fin 0)))

/-- Under a cap that is not a number the first setpoint goes out with a thousand on every axis,
where forty and the grant of four are the most that is allowed. -/
theorem unnumbered_cap_streams :
    (∀ axis, 0 ≤ grantingRobot.profile.maxWrenchAllowance axis) ∧
    ∃ before pose q, Trace (executeCartesianChunk (cappedRaise .nan) false false grantingRobot)
        (before ++ [⟨.write (.streamCartesian pose none), .ok ()⟩]) q ∧
      before.foldl measured none = some (loaded (.fin 1000)) ∧
      ∀ axis, grantingRobot.profile.maxContactWrench axis +
          grantingRobot.profile.maxWrenchAllowance axis <
        Scalar.abs ((loaded (.fin 1000)).wrench axis) := by
  refine ⟨grantingRobot_headroom, ?_⟩
  have light : exceeds (loaded (.fin 1000)).wrench
      (effectiveWrenchCap grantingRobot.profile (cappedRaise .nan)) = false := by
    refine List.any_eq_false.mpr fun axis _ => ?_
    rw [decide_eq_true_eq]
    change ¬ Scalar.minimum (grantingRobot.profile.maxContactWrench axis) nan < _
    rw [minimum_nan]
    exact not_nan_lt _
  obtain ⟨pose, q, ran⟩ := cappedRaise_streams light
  refine ⟨cartesianOpening (loaded (.fin 1000)) ++ [⟨.cancelIsSet .tick, false⟩,
    ⟨.readState, .ok (loaded (.fin 1000))⟩, ⟨.publishState (loaded (.fin 1000)), ()⟩,
    ⟨.inFault, .ok false⟩], pose, q, ran, rfl, ?_⟩
  intro axis
  change grantingRobot.profile.maxContactWrench axis + fin 4 < Scalar.abs (fin 1000)
  rw [grantingRobot_cap, fin_abs, Scalar.abs_real]
  split
  · rw [fin_add, fin_lt]
    norm_num
  · rw [fin_add, fin_lt]
    norm_num

end Loaded

end FlexivControl
