/-
The close gate as a machine over the executor's locals.

Each part of the gripper logic is a step that leaves new locals and a list of commands to
send. The executor's own parts are these steps followed by their sends, so what the gate
does in a run is read off the locals, the measured states and the setpoints.
-/

import FlexivControl.Core.Resolution
import FlexivControl.Robot.Facade

namespace FlexivControl

variable {K : Type} [Scalar K]

/-- A gripper command on its way out, with the locals and the state it was judged on. -/
structure GripSend (K : Type) [Scalar K] where
  cmd : GripperCommand K
  state : RobotState K
  run : ChunkRun K

structure GripStep (K : Type) [Scalar K] where
  run : ChunkRun K
  sends : List (GripSend K) := []

def GripStep.emit (step : GripStep K) : RobotM K (ChunkRun K) := do
  step.sends.forM fun send => backend (.moveGripper send.cmd)
  pure step.run

def judgeClose (chunk : CartesianChunk K) (run : ChunkRun K) (g : GripperCommand K)
    (state : RobotState K) : GripStep K :=
  let errNow := run.trackingError state
  let gate := chunk.gripTrackingGateM.getD 0
  if run.closeAborted ∨ run.result.clipped ∨ gate < errNow then
    if run.closeAborted then { run := run }
    else
      let note := LogValue.closeAborted run.currentSegment errNow gate run.result.clipped
      { run := { run with closeAborted := true, result := run.result.note "close_aborted" note } }
  else { run := { run with closeIssued := true }, sends := [⟨g, state, run⟩] }

def fireStep (chunk : CartesianChunk K) (run : ChunkRun K) (state : RobotState K) : GripStep K :=
  match run.pendingClose with
  | none => { run := run }
  | some (g, fireAt) =>
      if fireAt ≤ run.tickIdx then judgeClose chunk { run with pendingClose := none } g state
      else { run := run }

def settleStep (chunk : CartesianChunk K) (run : ChunkRun K) (state : RobotState K) : GripStep K :=
  match run.pendingClose with
  | none => { run := run }
  | some (g, _) => judgeClose chunk { run with pendingClose := none } g state

def settleTicks (controlHz : K) (segmentTicks : Nat) : Int :=
  min (Scalar.round (gripGateSettleS * controlHz)) (max 1 ((segmentTicks : Int) / 2))

/-- Whether the gate holds this command back. -/
def gated (chunk : CartesianChunk K) (run : ChunkRun K) (grip : GripperCommand K)
    (state : RobotState K) : Bool :=
  isClosing grip state && (chunk.gripTrackingGateM.isSome && !(grip.grasp && run.closeIssued))

def handleStep (chunk : CartesianChunk K) (controlHz : K) (segmentTicks : Nat) (run : ChunkRun K)
    (grip : GripperCommand K) (state : RobotState K) : GripStep K :=
  if gated chunk run grip state then
    if run.closeAborted then { run := run }
    else
      let first := settleStep chunk run state
      { run := { first.run with
          pendingClose := some (grip, first.run.tickIdx + settleTicks controlHz segmentTicks) }
        sends := first.sends }
  else
    { run := { run with closeIssued := run.closeIssued || isClosing grip state }
      sends := [⟨grip, state, run⟩] }

def gripStep (chunk : CartesianChunk K) (controlHz : K) (sp : CartesianSetpoint K)
    (run : ChunkRun K) (state : RobotState K) : GripStep K :=
  match sp.gripper with
  | none => { run := run }
  | some grip => handleStep chunk controlHz sp.segmentTicks run grip state

/-- The pending close when the ticks are over; `final` is only looked at after a clean finish. -/
def finishStep (chunk : CartesianChunk K) (run : ChunkRun K) (final : RobotState K) : GripStep K :=
  match run.pendingClose with
  | none => { run := run }
  | some (g, _) =>
      let run := { run with pendingClose := none }
      if run.result.success then judgeClose chunk run g final
      else if run.closeAborted then { run := run }
      else
        let note := LogValue.closeStopped run.currentSegment run.result.stopReason
          (chunk.gripTrackingGateM.getD 0) run.result.clipped
        { run := { run with
            closeAborted := true, result := run.result.note "close_aborted" note } }

/-! ### The executor's parts are the steps -/

theorem emit_send (run : ChunkRun K) (send : GripSend K) :
    (GripStep.emit { run := run, sends := [send] }) = (do
      backend (.moveGripper send.cmd)
      pure run) := by
  unfold GripStep.emit
  simp only [List.forM_eq_forM, List.forM_cons, List.forM_nil, bind_assoc, pure_bind]

theorem tryFireClose_emits (chunk : CartesianChunk K) (run : ChunkRun K) (g : GripperCommand K)
    (state : RobotState K) :
    tryFireClose chunk run g state = (judgeClose chunk run g state).emit := by
  unfold tryFireClose judgeClose
  dsimp only
  split
  · split
    · rfl
    · rfl
  · rw [emit_send]

theorem firePending_emits (chunk : CartesianChunk K) (run : ChunkRun K) (state : RobotState K) :
    firePending chunk run state = (fireStep chunk run state).emit := by
  unfold firePending fireStep
  rcases run.pendingClose with _ | ⟨g, fireAt⟩
  · rfl
  · dsimp only
    split
    · exact tryFireClose_emits chunk _ g state
    · rfl

theorem settleFirst_emits (chunk : CartesianChunk K) (run : ChunkRun K) (state : RobotState K) :
    settleFirst chunk run state = (settleStep chunk run state).emit := by
  unfold settleFirst settleStep
  rcases run.pendingClose with _ | ⟨g, fireAt⟩
  · rfl
  · exact tryFireClose_emits chunk _ g state

theorem handleGripper_emits (chunk : CartesianChunk K) (controlHz : K) (segmentTicks : Nat)
    (run : ChunkRun K) (grip : GripperCommand K) (state : RobotState K) :
    handleGripper chunk controlHz segmentTicks run grip state =
      (handleStep chunk controlHz segmentTicks run grip state).emit := by
  unfold handleGripper handleStep gated
  dsimp only
  split
  · split
    · rfl
    · rw [settleFirst_emits]
      unfold GripStep.emit
      simp only [bind_assoc, pure_bind]
      rfl
  · rw [emit_send]

theorem gripperPhase_emits (chunk : CartesianChunk K) (controlHz : K) (sp : CartesianSetpoint K)
    (run : ChunkRun K) (state : RobotState K) :
    gripperPhase chunk controlHz sp run state = (gripStep chunk controlHz sp run state).emit := by
  unfold gripperPhase gripStep
  cases sp.gripper with
  | none => rfl
  | some grip => exact handleGripper_emits chunk controlHz _ run grip state

/-- A tick that streamed: its setpoint, the state it read, what the filter made of the two,
the pose streamed, and the recorded rows after it. -/
structure StreamedTick (K : Type) [Scalar K] where
  sp : CartesianSetpoint K
  state : RobotState K
  sr : SafetyResult K
  pose : Pose K
  rows : Option (List (List K))

def ChunkRun.reach (run : ChunkRun K) (sp : CartesianSetpoint K) : ChunkRun K :=
  { run with tickIdx := run.tickIdx + 1, currentSegment := sp.segment }

def ChunkRun.entering (run : ChunkRun K) (t : StreamedTick K) : ChunkRun K :=
  let run := run.reach t.sp
  if t.sr.clipped then { run with result := { run.result with clipped := true } } else run

section Play

variable (chunk : CartesianChunk K) (hz dt : K)

def firedIn (run : ChunkRun K) (t : StreamedTick K) : GripStep K :=
  fireStep chunk (run.entering t) t.state

def handledIn (run : ChunkRun K) (t : StreamedTick K) : GripStep K :=
  gripStep chunk hz t.sp (firedIn chunk run t).run t.state

def sendsIn (run : ChunkRun K) (t : StreamedTick K) : List (GripSend K) :=
  (firedIn chunk run t).sends ++ (handledIn chunk hz run t).sends

def ChunkRun.afterTick (run : ChunkRun K) (t : StreamedTick K) : ChunkRun K :=
  { (handledIn chunk hz run t).run with trajectory := t.rows }.record dt t.state t.pose.pos

def playRun (run : ChunkRun K) (ticks : List (StreamedTick K)) : ChunkRun K :=
  ticks.foldl (ChunkRun.afterTick chunk hz dt) run

def playSends : ChunkRun K → List (StreamedTick K) → List (GripSend K)
  | _, [] => []
  | run, t :: ticks =>
      sendsIn chunk hz run t ++ playSends (run.afterTick chunk hz dt t) ticks

end Play

/-! ### A recorded abort -/

/-- The report has a close recorded as aborted. -/
def ChunkRun.Recorded (run : ChunkRun K) : Prop :=
  "close_aborted" ∈ run.result.log.map Prod.fst

def ChunkRun.Agrees (run : ChunkRun K) : Prop := run.closeAborted = true ↔ run.Recorded

theorem mem_note {result : ExecutionResult K} {key key' : String} {value : LogValue K} :
    key' ∈ (result.note key value).log.map Prod.fst ↔
      key' = key ∨ key' ∈ result.log.map Prod.fst := by
  unfold ExecutionResult.note
  simp only [List.map_append, List.map_cons, List.map_nil, List.mem_append, List.mem_singleton,
    List.mem_map, List.mem_filter, bne_iff_ne, ne_eq]
  constructor
  · rintro (⟨entry, ⟨member, _⟩, same⟩ | same)
    · exact Or.inr ⟨entry, member, same⟩
    · exact Or.inl same
  · rintro (same | ⟨entry, member, same⟩)
    · exact Or.inr same
    · by_cases again : key' = key
      · exact Or.inr again
      · exact Or.inl ⟨entry, ⟨member, fun same' => again (same.symm.trans same')⟩, same⟩

/-- What a part of the gripper logic does to the abort record. -/
structure GripStep.KeepsRecord (step : GripStep K) (run : ChunkRun K) : Prop where
  agrees : run.Agrees → step.run.Agrees
  sticks : run.closeAborted = true → step.run.closeAborted = true

theorem agrees_recording {run : ChunkRun K} (value : LogValue K) :
    ChunkRun.Agrees { run with
      closeAborted := true, result := run.result.note "close_aborted" value } :=
  ⟨fun _ => mem_note.mpr (Or.inl rfl), fun _ => rfl⟩

theorem judgeClose_keepsRecord (chunk : CartesianChunk K) (run : ChunkRun K)
    (g : GripperCommand K) (state : RobotState K) :
    (judgeClose chunk run g state).KeepsRecord run := by
  unfold judgeClose
  dsimp only
  split
  · split
    · exact ⟨id, id⟩
    · exact ⟨fun _ => agrees_recording _, fun _ => rfl⟩
  · exact ⟨id, id⟩

theorem fireStep_keepsRecord (chunk : CartesianChunk K) (run : ChunkRun K) (state : RobotState K) :
    (fireStep chunk run state).KeepsRecord run := by
  unfold fireStep
  split
  · exact ⟨id, id⟩
  · rename_i g fireAt pending
    split
    · have judged := judgeClose_keepsRecord chunk { run with pendingClose := none } g state
      exact ⟨judged.agrees, judged.sticks⟩
    · exact ⟨id, id⟩

theorem settleStep_keepsRecord (chunk : CartesianChunk K) (run : ChunkRun K)
    (state : RobotState K) : (settleStep chunk run state).KeepsRecord run := by
  unfold settleStep
  split
  · exact ⟨id, id⟩
  · rename_i g fireAt pending
    have judged := judgeClose_keepsRecord chunk { run with pendingClose := none } g state
    exact ⟨judged.agrees, judged.sticks⟩

theorem gripStep_keepsRecord (chunk : CartesianChunk K) (hz : K) (sp : CartesianSetpoint K)
    (run : ChunkRun K) (state : RobotState K) :
    (gripStep chunk hz sp run state).KeepsRecord run := by
  unfold gripStep
  split
  · exact ⟨id, id⟩
  · unfold handleStep
    split
    · split
      · exact ⟨id, id⟩
      · have settled := settleStep_keepsRecord chunk run state
        exact ⟨settled.agrees, settled.sticks⟩
    · exact ⟨id, id⟩

theorem agrees_entering {run : ChunkRun K} (t : StreamedTick K) :
    (run.Agrees → (run.entering t).Agrees) ∧ (run.entering t).closeAborted = run.closeAborted := by
  unfold ChunkRun.entering
  dsimp only
  split
  · exact ⟨id, rfl⟩
  · exact ⟨id, rfl⟩

section Records

variable {chunk : CartesianChunk K} {hz dt : K}

theorem fired_agrees {run : ChunkRun K} (agrees : run.Agrees) (t : StreamedTick K) :
    (firedIn chunk run t).run.Agrees :=
  (fireStep_keepsRecord chunk _ _).agrees ((agrees_entering t).1 agrees)

theorem afterTick_agrees {run : ChunkRun K} (agrees : run.Agrees) (t : StreamedTick K) :
    (run.afterTick chunk hz dt t).Agrees :=
  (gripStep_keepsRecord chunk hz t.sp _ t.state).agrees (fired_agrees agrees t)

theorem fired_sticks {run : ChunkRun K} (aborted : run.closeAborted = true) (t : StreamedTick K) :
    (firedIn chunk run t).run.closeAborted = true :=
  (fireStep_keepsRecord chunk _ _).sticks ((agrees_entering t).2.trans aborted)

theorem afterTick_sticks {run : ChunkRun K} (aborted : run.closeAborted = true)
    (t : StreamedTick K) : (run.afterTick chunk hz dt t).closeAborted = true :=
  (gripStep_keepsRecord chunk hz t.sp _ t.state).sticks (fired_sticks aborted t)

theorem playRun_agrees (ticks : List (StreamedTick K)) :
    ∀ {run : ChunkRun K}, run.Agrees → (playRun chunk hz dt run ticks).Agrees := by
  induction ticks with
  | nil => exact fun agrees => agrees
  | cons t ticks ih => exact fun agrees => ih (afterTick_agrees agrees t)

theorem playRun_sticks (ticks : List (StreamedTick K)) :
    ∀ {run : ChunkRun K}, run.closeAborted = true →
      (playRun chunk hz dt run ticks).closeAborted = true := by
  induction ticks with
  | nil => exact fun aborted => aborted
  | cons t ticks ih => exact fun aborted => ih (afterTick_sticks aborted t)

end Records

/-- The only closing command that passes an aborted gate: a grasp after an issued close. -/
def GripSend.Heeds (send : GripSend K) : Prop :=
  send.run.closeAborted = true → isClosing send.cmd send.state = true →
    send.cmd.grasp = true ∧ send.run.closeIssued = true

theorem judgeClose_heeds (chunk : CartesianChunk K) (run : ChunkRun K) (g : GripperCommand K)
    (state : RobotState K) : ∀ send ∈ (judgeClose chunk run g state).sends, send.Heeds := by
  unfold judgeClose
  dsimp only
  split
  · split
    · intro send member
      cases member
    · intro send member
      cases member
  · rename_i passes
    intro send member aborted
    rw [List.mem_singleton.mp member] at aborted
    exact absurd (Or.inl aborted) passes

theorem fireStep_heeds (chunk : CartesianChunk K) (run : ChunkRun K) (state : RobotState K) :
    ∀ send ∈ (fireStep chunk run state).sends, send.Heeds := by
  unfold fireStep
  split
  · intro send member
    cases member
  · split
    · exact judgeClose_heeds chunk _ _ state
    · intro send member
      cases member

theorem gripStep_heeds {chunk : CartesianChunk K} (gate : chunk.gripTrackingGateM.isSome = true)
    (hz : K) (sp : CartesianSetpoint K) (run : ChunkRun K) (state : RobotState K) :
    ∀ send ∈ (gripStep chunk hz sp run state).sends, send.Heeds := by
  unfold gripStep
  split
  · intro send member
    cases member
  · rename_i grip _
    unfold handleStep
    split
    · split
      · intro send member
        cases member
      · unfold settleStep
        split
        · intro send member
          cases member
        · exact judgeClose_heeds chunk _ _ state
    · rename_i passes
      intro send member _ closing
      rw [List.mem_singleton.mp member] at closing ⊢
      simp only [gated, closing, gate, Bool.true_and, Bool.not_eq_true, Bool.not_eq_false',
        Bool.and_eq_true] at passes
      exact passes

theorem playSends_heed {chunk : CartesianChunk K} (gate : chunk.gripTrackingGateM.isSome = true)
    (hz dt : K) (ticks : List (StreamedTick K)) :
    ∀ run, ∀ send ∈ playSends chunk hz dt run ticks, send.Heeds := by
  induction ticks with
  | nil =>
      intro run send member
      cases member
  | cons t ticks ih =>
      intro run send member
      rcases List.mem_append.mp member with now | later
      · rcases List.mem_append.mp now with fired | handled
        · exact fireStep_heeds chunk _ _ send fired
        · exact gripStep_heeds gate hz t.sp _ _ send handled
      · exact ih _ send later

theorem finishStep_heeds (chunk : CartesianChunk K) (run : ChunkRun K) (final : RobotState K) :
    ∀ send ∈ (finishStep chunk run final).sends, send.Heeds := by
  unfold finishStep
  split
  · intro send member
    cases member
  · dsimp only
    split
    · exact judgeClose_heeds chunk _ _ final
    · split
      · intro send member
        cases member
      · intro send member
        cases member

/-- An issued close is among what has been sent, and a pending one is a closing command. -/
structure ChunkRun.IssuedBy (closes : GripperCommand K → Prop) (sent : List (GripSend K))
    (run : ChunkRun K) : Prop where
  issued : run.closeIssued = true → ∃ send ∈ sent, closes send.cmd
  pending : ∀ g fireAt, run.pendingClose = some (g, fireAt) → closes g

def IssuedBefore (closes : GripperCommand K → Prop) :
    List (GripSend K) → List (GripSend K) → Prop
  | _, [] => True
  | sent, send :: rest =>
      (send.run.closeIssued = true → ∃ earlier ∈ sent, closes earlier.cmd) ∧
        IssuedBefore closes (sent ++ [send]) rest

section Issuing

variable {closes : GripperCommand K → Prop}

theorem IssuedBefore.append {later : List (GripSend K)} (sends : List (GripSend K)) :
    ∀ {sent : List (GripSend K)}, IssuedBefore closes sent sends →
      IssuedBefore closes (sent ++ sends) later → IssuedBefore closes sent (sends ++ later) := by
  induction sends with
  | nil =>
      intro sent _ second
      rw [List.append_nil] at second
      exact second
  | cons send rest ih =>
      intro sent first second
      rw [List.append_cons] at second
      exact ⟨first.1, ih first.2 second⟩

theorem IssuedBefore.at_send {send : GripSend K} {after : List (GripSend K)}
    (found : send.run.closeIssued = true) (before : List (GripSend K)) :
    ∀ {sent : List (GripSend K)}, IssuedBefore closes sent (before ++ send :: after) →
      ∃ earlier ∈ sent ++ before, closes earlier.cmd := by
  induction before with
  | nil =>
      intro sent ordered
      rw [List.append_nil]
      exact ordered.1 found
  | cons first rest ih =>
      intro sent ordered
      rw [List.append_cons]
      exact ih ordered.2

structure GripStep.Issues (closes : GripperCommand K → Prop) (sent : List (GripSend K))
    (step : GripStep K) : Prop where
  ordered : IssuedBefore closes sent step.sends
  left : step.run.IssuedBy closes (sent ++ step.sends)

theorem issues_silent {sent : List (GripSend K)} {run : ChunkRun K}
    (issued : run.IssuedBy closes sent) : (GripStep.mk run []).Issues closes sent where
  ordered := trivial
  left := by
    rw [List.append_nil]
    exact issued

theorem judgeClose_issues (chunk : CartesianChunk K) {run : ChunkRun K} {g : GripperCommand K}
    (state : RobotState K) {sent : List (GripSend K)} (issued : run.IssuedBy closes sent)
    (closing : closes g) : (judgeClose chunk run g state).Issues closes sent := by
  unfold judgeClose
  dsimp only
  split
  · split
    · exact issues_silent issued
    · exact issues_silent ⟨issued.issued, issued.pending⟩
  · exact ⟨⟨issued.issued, trivial⟩,
      fun _ => ⟨_, List.mem_append_right _ List.mem_cons_self, closing⟩, issued.pending⟩

theorem ChunkRun.IssuedBy.resolved {sent : List (GripSend K)} {run : ChunkRun K}
    (issued : run.IssuedBy closes sent) :
    ChunkRun.IssuedBy closes sent { run with pendingClose := none } where
  issued := issued.issued
  pending := by
    intro g fireAt pending
    cases pending

theorem fireStep_issues (chunk : CartesianChunk K) {run : ChunkRun K} (state : RobotState K)
    {sent : List (GripSend K)} (issued : run.IssuedBy closes sent) :
    (fireStep chunk run state).Issues closes sent := by
  unfold fireStep
  split
  · exact issues_silent issued
  · rename_i g fireAt pending
    split
    · exact judgeClose_issues chunk state issued.resolved (issued.pending g fireAt pending)
    · exact issues_silent issued

theorem settleStep_issues (chunk : CartesianChunk K) {run : ChunkRun K} (state : RobotState K)
    {sent : List (GripSend K)} (issued : run.IssuedBy closes sent) :
    (settleStep chunk run state).Issues closes sent := by
  unfold settleStep
  split
  · exact issues_silent issued
  · rename_i g fireAt pending
    exact judgeClose_issues chunk state issued.resolved (issued.pending g fireAt pending)

theorem gripStep_issues (chunk : CartesianChunk K) (hz : K) {sp : CartesianSetpoint K}
    {run : ChunkRun K} {state : RobotState K} {sent : List (GripSend K)}
    (issued : run.IssuedBy closes sent)
    (closing : ∀ grip, sp.gripper = some grip → isClosing grip state = true → closes grip) :
    (gripStep chunk hz sp run state).Issues closes sent := by
  unfold gripStep
  split
  · exact issues_silent issued
  · rename_i grip bears
    unfold handleStep
    split
    · rename_i held
      unfold gated at held
      rw [Bool.and_eq_true] at held
      split
      · exact issues_silent issued
      · have settled := settleStep_issues chunk state issued
        refine ⟨settled.ordered, settled.left.issued, ?_⟩
        intro g fireAt pending
        cases pending
        exact closing grip bears held.1
    · refine ⟨⟨issued.issued, trivial⟩, ?_, issued.pending⟩
      intro since
      cases already : run.closeIssued with
      | true =>
          obtain ⟨send, member, closed⟩ := issued.issued already
          exact ⟨send, List.mem_append_left _ member, closed⟩
      | false =>
          dsimp only at since
          rw [already, Bool.false_or] at since
          exact ⟨_, List.mem_append_right _ List.mem_cons_self, closing grip bears since⟩

theorem entering_issued {run : ChunkRun K} {sent : List (GripSend K)}
    (issued : run.IssuedBy closes sent) (t : StreamedTick K) :
    (run.entering t).IssuedBy closes sent := by
  unfold ChunkRun.entering
  dsimp only
  split
  · exact ⟨issued.issued, issued.pending⟩
  · exact ⟨issued.issued, issued.pending⟩

theorem sendsIn_issues (chunk : CartesianChunk K) (hz dt : K) {run : ChunkRun K}
    {t : StreamedTick K} {sent : List (GripSend K)} (issued : run.IssuedBy closes sent)
    (closing : ∀ grip, t.sp.gripper = some grip → isClosing grip t.state = true → closes grip) :
    IssuedBefore closes sent (sendsIn chunk hz run t) ∧
      (run.afterTick chunk hz dt t).IssuedBy closes (sent ++ sendsIn chunk hz run t) := by
  have fired := fireStep_issues chunk t.state (entering_issued issued t)
  have handled := gripStep_issues chunk hz fired.left closing
  refine ⟨fired.ordered.append _ handled.ordered, ?_⟩
  have left := handled.left
  rw [List.append_assoc] at left
  exact ⟨left.issued, left.pending⟩

theorem playSends_issues (chunk : CartesianChunk K) (hz dt : K) (ticks : List (StreamedTick K)) :
    ∀ {run : ChunkRun K} {sent : List (GripSend K)}, run.IssuedBy closes sent →
      (∀ t ∈ ticks, ∀ grip, t.sp.gripper = some grip → isClosing grip t.state = true →
        closes grip) →
      IssuedBefore closes sent (playSends chunk hz dt run ticks) ∧
        (playRun chunk hz dt run ticks).IssuedBy closes
          (sent ++ playSends chunk hz dt run ticks) := by
  induction ticks with
  | nil =>
      intro run sent issued _
      refine ⟨trivial, ?_⟩
      rw [playSends, List.append_nil]
      exact issued
  | cons t ticks ih =>
      intro run sent issued closing
      rw [List.forall_mem_cons] at closing
      obtain ⟨now, left⟩ := sendsIn_issues chunk hz dt issued closing.1
      obtain ⟨later, ended⟩ := ih left closing.2
      rw [List.append_assoc] at ended
      exact ⟨now.append _ later, ended⟩

theorem finishStep_issues (chunk : CartesianChunk K) {run : ChunkRun K} (final : RobotState K)
    {sent : List (GripSend K)} (issued : run.IssuedBy closes sent) :
    (finishStep chunk run final).Issues closes sent := by
  unfold finishStep
  split
  · exact issues_silent issued
  · rename_i g fireAt pending
    dsimp only
    split
    · exact judgeClose_issues chunk final issued.resolved (issued.pending g fireAt pending)
    · split
      · exact issues_silent issued.resolved
      · exact issues_silent ⟨issued.issued, issued.resolved.pending⟩

end Issuing

/-! ### One pending close at a time -/

def Spaced : List (CartesianSetpoint K) → Prop
  | [] => True
  | sp :: rest =>
      (sp.gripper ≠ none → ∀ next ∈ rest.take (sp.segmentTicks - 1), next.gripper = none) ∧
        Spaced rest

/-- A pending close is due before the next setpoint that bears a command. -/
def DueInTime (run : ChunkRun K) (rest : List (CartesianSetpoint K)) : Prop :=
  ∀ g fireAt, run.pendingClose = some (g, fireAt) →
    ∀ sp ∈ rest.take (fireAt - run.tickIdx - 1).toNat, sp.gripper = none

theorem settleTicks_le (hz : K) (segmentTicks : Nat) :
    (settleTicks hz segmentTicks - 1).toNat ≤ segmentTicks - 1 := by
  unfold settleTicks
  omega

def ChunkRun.pendingCmd (run : ChunkRun K) : List (GripperCommand K) :=
  (run.pendingClose.map Prod.fst).toList

def commands (sends : List (GripSend K)) : List (GripperCommand K) := sends.map (·.cmd)

theorem judgeClose_resolves (chunk : CartesianChunk K) (run : ChunkRun K) (g : GripperCommand K)
    (state : RobotState K) :
    (judgeClose chunk run g state).run.pendingClose = run.pendingClose ∧
      (judgeClose chunk run g state).run.tickIdx = run.tickIdx ∧
      (commands (judgeClose chunk run g state).sends = [g] ∨
        commands (judgeClose chunk run g state).sends = [] ∧
          (judgeClose chunk run g state).run.closeAborted = true) := by
  unfold judgeClose
  dsimp only
  split
  · split
    · rename_i aborted
      exact ⟨rfl, rfl, Or.inr ⟨rfl, aborted⟩⟩
    · exact ⟨rfl, rfl, Or.inr ⟨rfl, rfl⟩⟩
  · exact ⟨rfl, rfl, Or.inl rfl⟩

theorem judgeClose_sublist (chunk : CartesianChunk K) (run : ChunkRun K) (g : GripperCommand K)
    (state : RobotState K) : (commands (judgeClose chunk run g state).sends).Sublist [g] := by
  rcases (judgeClose_resolves chunk run g state).2.2 with sent | ⟨none, _⟩
  · rw [sent]
  · rw [none]
    exact List.nil_sublist _

theorem fireStep_judges (chunk : CartesianChunk K) {run : ChunkRun K} {g : GripperCommand K}
    {fireAt : Int} (pending : run.pendingClose = some (g, fireAt)) (due : fireAt ≤ run.tickIdx)
    (state : RobotState K) :
    fireStep chunk run state = judgeClose chunk { run with pendingClose := none } g state := by
  unfold fireStep
  rw [pending]
  exact if_pos due

/-- What a due close leaves: nothing pending, and itself sent or its abort on record. -/
theorem fireStep_due (chunk : CartesianChunk K) {run : ChunkRun K} {g : GripperCommand K}
    {fireAt : Int} (pending : run.pendingClose = some (g, fireAt)) (due : fireAt ≤ run.tickIdx)
    (state : RobotState K) :
    (fireStep chunk run state).run.pendingClose = none ∧
      (commands (fireStep chunk run state).sends = [g] ∨
        commands (fireStep chunk run state).sends = [] ∧
          (fireStep chunk run state).run.closeAborted = true) := by
  rw [fireStep_judges chunk pending due]
  have resolved := judgeClose_resolves chunk { run with pendingClose := none } g state
  exact ⟨resolved.1, resolved.2.2⟩

theorem fireStep_idle {chunk : CartesianChunk K} {run : ChunkRun K}
    (idle : ∀ g fireAt, run.pendingClose = some (g, fireAt) → ¬ fireAt ≤ run.tickIdx)
    (state : RobotState K) : fireStep chunk run state = { run := run } := by
  unfold fireStep
  cases pending : run.pendingClose with
  | none => rfl
  | some close => exact if_neg (idle close.1 close.2 pending)

theorem fireStep_tickIdx (chunk : CartesianChunk K) (run : ChunkRun K) (state : RobotState K) :
    (fireStep chunk run state).run.tickIdx = run.tickIdx := by
  unfold fireStep
  split
  · rfl
  · rename_i g fireAt pending
    split
    · exact (judgeClose_resolves chunk { run with pendingClose := none } g state).2.1
    · rfl

theorem fireStep_order (chunk : CartesianChunk K) (run : ChunkRun K) (state : RobotState K) :
    (commands (fireStep chunk run state).sends ++ (fireStep chunk run state).run.pendingCmd).Sublist
      run.pendingCmd := by
  by_cases idle : ∀ g fireAt, run.pendingClose = some (g, fireAt) → ¬ fireAt ≤ run.tickIdx
  · rw [fireStep_idle idle]
    exact List.Sublist.refl _
  · push Not at idle
    obtain ⟨g, fireAt, pending, due⟩ := idle
    obtain ⟨cleared, resolved⟩ := fireStep_due chunk pending due state
    have waiting : run.pendingCmd = [g] := by
      unfold ChunkRun.pendingCmd
      rw [pending]
      rfl
    have nothing : (fireStep chunk run state).run.pendingCmd = [] := by
      unfold ChunkRun.pendingCmd
      rw [cleared]
      rfl
    rw [nothing, waiting, List.append_nil]
    rcases resolved with sent | ⟨none, _⟩
    · rw [sent]
    · rw [none]
      exact List.nil_sublist _

theorem entering_pendingClose (run : ChunkRun K) (t : StreamedTick K) :
    (run.entering t).pendingClose = run.pendingClose ∧
      (run.entering t).tickIdx = run.tickIdx + 1 := by
  unfold ChunkRun.entering
  dsimp only
  split
  · exact ⟨rfl, rfl⟩
  · exact ⟨rfl, rfl⟩

section InTime

variable (chunk : CartesianChunk K) (hz dt : K)

theorem DueInTime.resolved {run : ChunkRun K} {t : StreamedTick K}
    {rest : List (CartesianSetpoint K)} (inTime : DueInTime run (t.sp :: rest))
    (bears : t.sp.gripper ≠ none) :
    (firedIn chunk run t).run.pendingClose = none ∧
      ∀ g fireAt, run.pendingClose = some (g, fireAt) →
        commands (firedIn chunk run t).sends = [g] ∨
          (firedIn chunk run t).run.closeAborted = true := by
  obtain ⟨kept, tick⟩ := entering_pendingClose run t
  cases pending : run.pendingClose with
  | none =>
      constructor
      · unfold firedIn
        rw [fireStep_idle]
        · exact kept.trans pending
        · intro g fireAt waiting
          rw [kept, pending] at waiting
          cases waiting
      · intro g fireAt waiting
        cases waiting
  | some close =>
      obtain ⟨g, fireAt⟩ := close
      have due : fireAt ≤ (run.entering t).tickIdx := by
        by_contra late
        have waits : 0 < (fireAt - run.tickIdx - 1).toNat := by omega
        refine bears (inTime g fireAt pending t.sp ?_)
        rw [List.take_cons waits]
        exact List.mem_cons_self
      obtain ⟨cleared, resolved⟩ := fireStep_due chunk (kept.trans pending) due t.state
      refine ⟨cleared, ?_⟩
      intro g' fireAt' waiting
      cases waiting
      rcases resolved with sent | ⟨_, aborted⟩
      · exact Or.inl sent
      · exact Or.inr aborted

theorem gripStep_quiet {sp : CartesianSetpoint K} (bears : sp.gripper = none) (run : ChunkRun K)
    (state : RobotState K) : gripStep chunk hz sp run state = { run := run } := by
  unfold gripStep
  rw [bears]

theorem settleStep_idle {run : ChunkRun K} (idle : run.pendingClose = none)
    (state : RobotState K) : settleStep chunk run state = { run := run } := by
  unfold settleStep
  rw [idle]

theorem gripStep_defers {sp : CartesianSetpoint K} {grip : GripperCommand K}
    (bears : sp.gripper = some grip) {run : ChunkRun K} {state : RobotState K}
    (held : gated chunk run grip state = true) (unaborted : run.closeAborted = false)
    (idle : run.pendingClose = none) :
    gripStep chunk hz sp run state = { run := { run with
      pendingClose := some (grip, run.tickIdx + settleTicks hz sp.segmentTicks) } } := by
  unfold gripStep
  rw [bears]
  dsimp only
  unfold handleStep
  rw [if_pos held, if_neg (by rw [unaborted]; exact Bool.false_ne_true), settleStep_idle chunk idle]

theorem gripStep_passes {sp : CartesianSetpoint K} {grip : GripperCommand K}
    (bears : sp.gripper = some grip) {run : ChunkRun K} {state : RobotState K}
    (free : gated chunk run grip state = false) :
    gripStep chunk hz sp run state =
      { run := { run with closeIssued := run.closeIssued || isClosing grip state }
        sends := [⟨grip, state, run⟩] } := by
  unfold gripStep
  rw [bears]
  dsimp only
  unfold handleStep
  rw [if_neg (by rw [free]; exact Bool.false_ne_true)]

/-- Without a close pending, a command is deferred on its own window or dealt with now. -/
theorem gripStep_idle {sp : CartesianSetpoint K} {grip : GripperCommand K}
    (bears : sp.gripper = some grip) {run : ChunkRun K} (idle : run.pendingClose = none)
    (state : RobotState K) :
    (gripStep chunk hz sp run state).run.tickIdx = run.tickIdx ∧
      ((commands (gripStep chunk hz sp run state).sends = [] ∧
          (gripStep chunk hz sp run state).run.pendingClose =
            some (grip, run.tickIdx + settleTicks hz sp.segmentTicks)) ∨
        ((commands (gripStep chunk hz sp run state).sends).Sublist [grip] ∧
          (gripStep chunk hz sp run state).run.pendingClose = none)) := by
  unfold gripStep
  rw [bears]
  dsimp only
  unfold handleStep
  split
  · split
    · exact ⟨rfl, Or.inr ⟨List.nil_sublist _, idle⟩⟩
    · rw [settleStep_idle chunk idle]
      exact ⟨rfl, Or.inl ⟨rfl, rfl⟩⟩
  · exact ⟨rfl, Or.inr ⟨List.Sublist.refl _, idle⟩⟩

theorem gripStep_order {sp : CartesianSetpoint K} {run : ChunkRun K}
    (idle : sp.gripper ≠ none → run.pendingClose = none) (state : RobotState K) :
    (commands (gripStep chunk hz sp run state).sends ++
      (gripStep chunk hz sp run state).run.pendingCmd).Sublist
        (run.pendingCmd ++ sp.gripper.toList) := by
  cases bears : sp.gripper with
  | none =>
      rw [gripStep_quiet chunk hz bears, Option.toList_none, List.append_nil]
      exact List.Sublist.refl _
  | some grip =>
      have none : run.pendingClose = none := idle (by rw [bears]; exact Option.some_ne_none grip)
      have before : run.pendingCmd = [] := by
        unfold ChunkRun.pendingCmd
        rw [none]
        rfl
      rw [before]
      obtain ⟨_, ⟨sent, pending⟩ | ⟨sent, pending⟩⟩ :=
        gripStep_idle chunk hz bears none state
      · unfold ChunkRun.pendingCmd
        rw [sent, pending]
        exact List.Sublist.refl _
      · unfold ChunkRun.pendingCmd
        rw [pending]
        simpa using sent

theorem afterTick_pendingClose (run : ChunkRun K) (t : StreamedTick K) :
    (run.afterTick chunk hz dt t).pendingClose = (handledIn chunk hz run t).run.pendingClose ∧
      (run.afterTick chunk hz dt t).tickIdx = (handledIn chunk hz run t).run.tickIdx :=
  ⟨rfl, rfl⟩

theorem firedIn_tickIdx (run : ChunkRun K) (t : StreamedTick K) :
    (firedIn chunk run t).run.tickIdx = run.tickIdx + 1 :=
  (fireStep_tickIdx chunk _ _).trans (entering_pendingClose run t).2

/-- A close that is still pending after its tick's judgement is not due yet. -/
theorem firedIn_pending {run : ChunkRun K} {t : StreamedTick K} {g : GripperCommand K} {fireAt : Int}
    (pending : (firedIn chunk run t).run.pendingClose = some (g, fireAt)) :
    run.pendingClose = some (g, fireAt) ∧ ¬ fireAt ≤ run.tickIdx + 1 := by
  obtain ⟨kept, tick⟩ := entering_pendingClose run t
  by_cases idle : ∀ g fireAt, (run.entering t).pendingClose = some (g, fireAt) →
      ¬ fireAt ≤ (run.entering t).tickIdx
  · have unfired : firedIn chunk run t = { run := run.entering t } := fireStep_idle idle t.state
    rw [unfired] at pending
    have notDue := idle g fireAt pending
    rw [tick] at notDue
    exact ⟨kept.symm.trans pending, by exact_mod_cast notDue⟩
  · push Not at idle
    obtain ⟨g', fireAt', waiting, due⟩ := idle
    have cleared := (fireStep_due chunk waiting due t.state).1
    rw [show (firedIn chunk run t).run.pendingClose = none from cleared] at pending
    cases pending

theorem DueInTime.tick {run : ChunkRun K} {t : StreamedTick K} {rest : List (CartesianSetpoint K)}
    (inTime : DueInTime run (t.sp :: rest)) (spaced : Spaced (t.sp :: rest)) :
    DueInTime (run.afterTick chunk hz dt t) rest := by
  intro g fireAt pending sp early
  obtain ⟨closes, tick⟩ := afterTick_pendingClose chunk hz dt run t
  rw [closes] at pending
  rw [tick] at early
  cases bears : t.sp.gripper with
  | none =>
      have quiet : handledIn chunk hz run t = { run := (firedIn chunk run t).run } :=
        gripStep_quiet chunk hz bears _ _
      rw [quiet] at pending early
      obtain ⟨waiting, notDue⟩ := firedIn_pending chunk pending
      refine inTime g fireAt waiting sp ?_
      have passed : (fireAt - run.tickIdx - 1).toNat =
          (fireAt - ((firedIn chunk run t).run.tickIdx : Int) - 1).toNat + 1 := by
        rw [firedIn_tickIdx]
        push_cast
        omega
      rw [passed, List.take_succ_cons]
      exact List.mem_cons_of_mem _ early
  | some grip =>
      have bearing : t.sp.gripper ≠ none := by
        rw [bears]
        exact Option.some_ne_none grip
      have idle := (inTime.resolved chunk bearing).1
      obtain ⟨kept, ⟨_, deferred⟩ | ⟨_, cleared⟩⟩ :=
        gripStep_idle chunk hz bears idle t.state
      · rw [show (handledIn chunk hz run t).run.pendingClose = _ from deferred] at pending
        cases pending
        refine spaced.1 bearing sp ?_
        refine List.take_subset_take_left rest (settleTicks_le hz t.sp.segmentTicks) ?_
        rw [show (handledIn chunk hz run t).run.tickIdx = _ from kept] at early
        rwa [add_sub_cancel_left] at early
      · rw [show (handledIn chunk hz run t).run.pendingClose = _ from cleared] at pending
        cases pending

theorem sendsIn_order {run : ChunkRun K} {t : StreamedTick K} {rest : List (CartesianSetpoint K)}
    (inTime : DueInTime run (t.sp :: rest)) :
    (commands (sendsIn chunk hz run t) ++ (run.afterTick chunk hz dt t).pendingCmd).Sublist
      (run.pendingCmd ++ t.sp.gripper.toList) := by
  have fired := fireStep_order chunk (run.entering t) t.state
  have handled := gripStep_order chunk hz
    (fun bears => (inTime.resolved chunk bears).1) t.state
  have entered : (run.entering t).pendingCmd = run.pendingCmd := by
    unfold ChunkRun.pendingCmd
    rw [(entering_pendingClose run t).1]
  rw [entered] at fired
  have split : commands (sendsIn chunk hz run t) =
      commands (firedIn chunk run t).sends ++ commands (handledIn chunk hz run t).sends :=
    List.map_append
  have first := List.Sublist.append_right fired t.sp.gripper.toList
  rw [List.append_assoc] at first
  rw [split, List.append_assoc]
  exact (List.Sublist.append_left handled _).trans first

/-- What the ticks before this one sent, and the close they left pending, are in plan order. -/
theorem playSends_order (rest : List (CartesianSetpoint K)) (ticks : List (StreamedTick K)) :
    ∀ {run : ChunkRun K}, DueInTime run (ticks.map (·.sp) ++ rest) →
      Spaced (ticks.map (·.sp) ++ rest) →
      (commands (playSends chunk hz dt run ticks) ++
        (playRun chunk hz dt run ticks).pendingCmd).Sublist
          (run.pendingCmd ++ ticks.filterMap (·.sp.gripper)) ∧
      DueInTime (playRun chunk hz dt run ticks) rest := by
  induction ticks with
  | nil =>
      intro run inTime _
      refine ⟨?_, inTime⟩
      rw [List.filterMap_nil, List.append_nil]
      exact List.Sublist.refl _
  | cons t ticks ih =>
      intro run inTime spaced
      have now := sendsIn_order chunk hz dt inTime
      obtain ⟨later, inTime'⟩ := ih (inTime.tick chunk hz dt spaced)
        spaced.2
      refine ⟨?_, inTime'⟩
      have sends : commands (playSends chunk hz dt run (t :: ticks)) =
          commands (sendsIn chunk hz run t) ++
            commands (playSends chunk hz dt (run.afterTick chunk hz dt t) ticks) :=
        List.map_append
      have bearing : (t :: ticks).filterMap (·.sp.gripper) =
          t.sp.gripper.toList ++ ticks.filterMap (·.sp.gripper) := by
        cases bears : t.sp.gripper with
        | none =>
            simp only [List.filterMap_cons, bears, Option.toList_none, List.nil_append]
        | some grip =>
            simp only [List.filterMap_cons, bears, Option.toList_some, List.singleton_append]
      have next := List.Sublist.append_right now (ticks.filterMap (·.sp.gripper))
      rw [List.append_assoc, List.append_assoc] at next
      rw [sends, bearing, List.append_assoc]
      exact (List.Sublist.append_left later _).trans next

end InTime

theorem finishStep_resolves (chunk : CartesianChunk K) (run : ChunkRun K) (final : RobotState K) :
    (finishStep chunk run final).run.pendingClose = none ∧
      (commands (finishStep chunk run final).sends).Sublist run.pendingCmd ∧
      ∀ g fireAt, run.pendingClose = some (g, fireAt) →
        commands (finishStep chunk run final).sends = [g] ∨
          (finishStep chunk run final).run.closeAborted = true := by
  unfold finishStep ChunkRun.pendingCmd
  cases pending : run.pendingClose with
  | none =>
      refine ⟨pending, List.nil_sublist _, ?_⟩
      intro g fireAt waiting
      cases waiting
  | some close =>
      obtain ⟨g, fireAt⟩ := close
      dsimp only
      split
      · obtain ⟨cleared, _, resolved⟩ :=
          judgeClose_resolves chunk { run with pendingClose := none } g final
        refine ⟨cleared, judgeClose_sublist chunk _ g final, ?_⟩
        intro g' fireAt' waiting
        cases waiting
        rcases resolved with sent | ⟨_, aborted⟩
        · exact Or.inl sent
        · exact Or.inr aborted
      · split
        · rename_i aborted
          refine ⟨rfl, List.nil_sublist _, ?_⟩
          intro _ _ _
          exact Or.inr aborted
        · refine ⟨rfl, List.nil_sublist _, ?_⟩
          intro _ _ _
          exact Or.inr rfl

theorem finishStep_keepsRecord (chunk : CartesianChunk K) (run : ChunkRun K)
    (final : RobotState K) : (finishStep chunk run final).KeepsRecord run := by
  unfold finishStep
  split
  · exact ⟨id, id⟩
  · rename_i g fireAt pending
    dsimp only
    split
    · have judged := judgeClose_keepsRecord chunk { run with pendingClose := none } g final
      exact ⟨judged.agrees, judged.sticks⟩
    · split
      · exact ⟨id, id⟩
      · exact ⟨fun _ => agrees_recording _, fun _ => rfl⟩

theorem Spaced.cons_quiet {later rest : List (CartesianSetpoint K)}
    (quiet : ∀ sp ∈ later, sp.gripper = none) (spaced : Spaced rest) : Spaced (later ++ rest) := by
  induction later with
  | nil => exact spaced
  | cons sp later ih =>
      refine ⟨fun bears => absurd (quiet sp List.mem_cons_self) bears, ?_⟩
      exact ih fun next inLater => quiet next (List.mem_cons_of_mem sp inLater)

namespace CartesianChunkInterpolator

theorem segment_bears (prevPos tgtPos : Vec3 K) (prevQuat tgtQuat : Quat K)
    (gripper : Option (GripperCommand K)) (segIdx : Nat) {n : Nat} (ticks : 0 < n) :
    ∃ sp later, segment prevPos tgtPos prevQuat tgtQuat gripper segIdx n = sp :: later ∧
      sp.gripper = gripper ∧ sp.segmentTicks = n ∧ later.length = n - 1 ∧
      ∀ next ∈ later, next.gripper = none := by
  obtain ⟨m, same⟩ := Nat.exists_eq_succ_of_ne_zero ticks.ne'
  subst same
  unfold segment
  rw [List.range_succ_eq_map, List.map_cons]
  refine ⟨_, _, rfl, rfl, rfl, ?_, ?_⟩
  · simp only [List.length_map, List.length_range, Nat.succ_sub_one]
  · intro next member
    obtain ⟨k, inside, same⟩ := List.mem_map.mp member
    obtain ⟨j, _, same'⟩ := List.mem_map.mp inside
    rw [← same, ← same']
    rfl

theorem segmentTicks_pos (interp : CartesianChunkInterpolator K) (prevPos tgtPos : Vec3 K)
    (prevQuat tgtQuat : Quat K) (wp : CartesianWaypoint K) :
    0 < interp.segmentTicks prevPos tgtPos prevQuat tgtQuat wp := by
  unfold segmentTicks
  dsimp only
  omega

theorem setpointsFrom_bear (interp : CartesianChunkInterpolator K)
    (waypoints : List (CartesianWaypoint K)) :
    ∀ prevPos prevQuat segIdx,
      Spaced (interp.setpointsFrom prevPos prevQuat segIdx waypoints) ∧
      (interp.setpointsFrom prevPos prevQuat segIdx waypoints).filterMap (·.gripper) =
        waypoints.filterMap (·.gripper) := by
  induction waypoints with
  | nil => exact fun _ _ _ => ⟨trivial, rfl⟩
  | cons wp rest ih =>
      intro prevPos prevQuat segIdx
      have ticks := interp.segmentTicks_pos prevPos wp.position prevQuat
        (wp.quaternion.getD prevQuat) wp
      obtain ⟨sp, later, made, bears, length, count, quiet⟩ := segment_bears prevPos wp.position
        prevQuat (wp.quaternion.getD prevQuat) wp.gripper segIdx ticks
      obtain ⟨spaced, handed⟩ := ih wp.position (wp.quaternion.getD prevQuat) (segIdx + 1)
      unfold setpointsFrom
      dsimp only
      rw [made, List.cons_append]
      constructor
      · refine ⟨?_, spaced.cons_quiet quiet⟩
        intro _ next member
        rw [length, ← count, List.take_left' rfl] at member
        exact quiet next member
      · have none : later.filterMap (·.gripper) = [] := by
          rw [List.filterMap_eq_nil_iff]
          exact quiet
        cases given : wp.gripper with
        | none =>
            rw [given] at bears
            rw [List.filterMap_cons_none bears, List.filterMap_cons_none given,
              List.filterMap_append, none, handed, List.nil_append]
        | some grip =>
            rw [given] at bears
            rw [List.filterMap_cons_some bears, List.filterMap_cons_some given,
              List.filterMap_append, none, handed, List.nil_append]

end CartesianChunkInterpolator

end FlexivControl
