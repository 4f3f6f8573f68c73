/-
The go/no-go gate of the viewer.

The gate reads a state, plans the preview from it, compares the preview's start pose with
the pose of that same state, and may then wait for a click of any length. The arm can move
in the meantime, and nothing looks at it again before the gate says yes.
-/

import FlexivControl.Filter.InSpec
import FlexivControl.Robot.Preview

namespace FlexivControl

open Script

section Gate

variable {K : Type} [Scalar K]

def staleLinearM : K := Scalar.ofRat (5 / 1000)

def staleAngularRad : K := Scalar.ofRat (35 / 1000)

def poseDistance (a b : Pose K) : K × K := ((a.pos - b.pos).norm, quatAngle a.quat b.quat)

/-- What the panel shows, with the numbers its texts render. -/
inductive PreviewNote (K : Type) [Scalar K] where
  | chunk (chunkId : String) (preview : ChunkPreview K)
  | stale (linear angular : K)
  | awaiting (step : Int)

structure RobotViz (K : Type) [Scalar K] where
  attached : Bool
  controlHz : K := Scalar.ofNat 100
  preview : Option (ChunkPreview K) := none
  previewMd : List (PreviewNote K) := []
  approveGroup : Bool := false

/-- What the viewer asks of the robot, of its own poller and of the operator's buttons. -/
inductive VizOp (K : Type) where
  | getState
  | lastState
  | activeProfile
  | clearGateEvent
  | waitGateEvent (timeout : Option K)
  | gateVerdict

abbrev VizOp.Resp : VizOp K → Type
  | .getState => Except Exc (RobotState K)
  | .lastState => Option (RobotState K)
  | .activeProfile => Option (SafetyProfile K)
  | .clearGateEvent => Unit
  | .waitGateEvent _ => Bool
  | .gateVerdict => Bool

def vizEffects (K : Type) [Scalar K] : Signature := ⟨VizOp K, VizOp.Resp⟩

abbrev VizM (K : Type) [Scalar K] (α : Type) := Script (vizEffects K) (RobotViz K) Exc α

def vizPerform (op : VizOp K) : VizM K (VizOp.Resp op) := @Script.perform (vizEffects K) _ _ op

def vizAttempt {α : Type} (result : Except Exc α) : VizM K α :=
  match result with
  | .ok a => pure a
  | .error e => throw e

def needsState : Exc := ⟨.runtimeError,
  "preview_chunk needs a RobotState (attach() a robot or pass state= explicitly)"⟩

def previewState (given : Option (RobotState K)) : VizM K (RobotState K) := do
  match given with
  | some state => pure state
  | none =>
      match ← vizPerform .lastState with
      | some state => pure state
      | none =>
          if (← get).attached then vizAttempt (← vizPerform .getState) else throw needsState

def previewProfile (given : Option (SafetyProfile K)) : VizM K (Option (SafetyProfile K)) :=
  match given with
  | some profile => pure (some profile)
  | none => vizPerform .activeProfile

def RobotViz.render (viz : RobotViz K) (preview : ChunkPreview K) (chunkId : String) : RobotViz K :=
  { viz with preview := some preview, previewMd := [.chunk chunkId preview] }

def previewChunk (chunk : CartesianChunk K) (state : Option (RobotState K))
    (profile : Option (SafetyProfile K)) (chunkId : String) : VizM K (ChunkPreview K) := do
  let state ← previewState state
  let profile ← previewProfile profile
  let viz ← get
  let preview ← vizAttempt (planChunkPreview chunk state.tcpPose profile viz.controlHz)
  modify (·.render preview chunkId)
  pure preview

def waitForClick (step : Int) (timeout : Option K) : VizM K Bool := do
  modify fun viz => { viz with approveGroup := true }
  vizPerform .clearGateEvent
  modify fun viz => { viz with previewMd := viz.previewMd ++ [.awaiting step] }
  if ← vizPerform (.waitGateEvent timeout) then vizPerform .gateVerdict else pure false

def gateState : VizM K (Option (RobotState K)) := do
  if (← get).attached then pure (some (← vizAttempt (← vizPerform .getState)))
  else vizPerform .lastState

def gate (requireClick : Bool) (timeout : Option K) (step : Int) (chunk : CartesianChunk K) :
    VizM K Bool := do
  match ← gateState with
  | none => pure false
  | some state =>
      let preview ← previewChunk chunk (some state) none (toString step)
      let (lin, ang) := poseDistance preview.startPose state.tcpPose
      if staleLinearM < lin ∨ staleAngularRad < ang then
        modify fun viz => { viz with previewMd := [.stale lin ang] }
        pure false
      else if requireClick then waitForClick step timeout
      else pure true

/-! ### What a call of the gate saw -/

structure GateSeen (K : Type) [Scalar K] where
  state : Option (RobotState K) := none
  clicked : Bool := false
  verdict : Bool := false

def GateSeen.observe (seen : GateSeen K) : Call (vizEffects K) → GateSeen K
  | ⟨.getState, .ok state⟩ => { seen with state := some state }
  | ⟨.lastState, state⟩ => { seen with state := state }
  | ⟨.waitGateEvent _, set⟩ => { seen with clicked := set }
  | ⟨.gateVerdict, verdict⟩ => { seen with verdict := verdict }
  | _ => seen

def gateSeen : Monitor (vizEffects K) (GateSeen K) where
  observe := GateSeen.observe
  admits _ _ := True
  allows _ _ := True

/-- There is a state, the chunk resolves against it, and a click that is asked for approves. -/
def GateSeen.Approves (seen : GateSeen K) (requireClick : Bool) (chunk : CartesianChunk K) : Prop :=
  ∃ state, seen.state = some state ∧ (∃ c, chunk.forExecution state.tcpPose = .ok c) ∧
    (requireClick = true → seen.clicked = true ∧ seen.verdict = true)

theorem wp_vizAttempt {α : Type} (result : Except Exc α)
    (post : Except Exc α → RobotViz K → GateSeen K → Prop) (viz : RobotViz K) (seen : GateSeen K) :
    wp gateSeen (vizAttempt result) post viz seen ↔ post result viz seen := by
  cases result <;> exact Iff.rfl

theorem wp_vizPerform (op : VizOp K)
    (post : Except Exc (VizOp.Resp op) → RobotViz K → GateSeen K → Prop) (viz : RobotViz K)
    (seen : GateSeen K) :
    wp gateSeen (vizPerform op) post viz seen ↔
      ∀ r, post (.ok r) viz (seen.observe ⟨op, r⟩) := by
  constructor
  · exact fun kept r => kept.2 r trivial
  · exact fun kept => ⟨trivial, fun r _ => kept r⟩

theorem wp_gateState (viz : RobotViz K) (seen : GateSeen K) (unread : seen.state = none) :
    wp gateSeen gateState
      (fun out viz' seen' => viz' = viz ∧ (∀ state, out = .ok state → seen'.state = state) ∧
        (∀ e, out = .error e → seen'.state = none) ∧ seen'.clicked = seen.clicked ∧
        seen'.verdict = seen.verdict) viz seen := by
  unfold gateState
  rw [wp_bind, wp_get, afterStep_ok]
  split
  · rw [wp_bind, wp_vizPerform]
    intro answer
    rw [afterStep_ok, wp_bind, wp_vizAttempt]
    cases answer with
    | ok state =>
        rw [afterStep_ok]
        refine ⟨rfl, ?_, ?_, rfl, rfl⟩
        · intro found same
          cases same
          rfl
        · intro e raised
          cases raised
    | error e =>
        refine ⟨rfl, ?_, fun _ _ => unread, rfl, rfl⟩
        intro found same
        cases same
  · rw [wp_vizPerform]
    intro state
    refine ⟨rfl, ?_, ?_, rfl, rfl⟩
    · intro found same
      cases same
      rfl
    · intro e raised
      cases raised

theorem planChunkPreview_spec (chunk : CartesianChunk K) (pose : Pose K)
    (profile : Option (SafetyProfile K)) (controlHz : K) :
    (∃ e, chunk.forExecution pose = .error e ∧
        planChunkPreview chunk pose profile controlHz = .error e) ∨
      ∃ c preview, chunk.forExecution pose = .ok c ∧
        planChunkPreview chunk pose profile controlHz = .ok preview ∧ preview.startPose = pose := by
  unfold planChunkPreview
  cases resolved : chunk.forExecution pose with
  | error e => exact Or.inl ⟨e, rfl, rfl⟩
  | ok c => exact Or.inr ⟨c, _, rfl, rfl, rfl⟩

theorem wp_previewChunk (chunk : CartesianChunk K) (state : RobotState K) (chunkId : String)
    (viz : RobotViz K) (seen : GateSeen K) :
    wp gateSeen (previewChunk chunk (some state) none chunkId)
      (fun out viz' seen' => seen' = seen ∧
        ((∃ e, chunk.forExecution state.tcpPose = .error e ∧ out = .error e ∧ viz' = viz) ∨
          ∃ c preview, chunk.forExecution state.tcpPose = .ok c ∧ out = .ok preview ∧
            preview.startPose = state.tcpPose ∧ viz' = viz.render preview chunkId)) viz seen := by
  unfold previewChunk previewState previewProfile
  rw [wp_bind, wp_pure, afterStep_ok, wp_bind, wp_vizPerform]
  intro profile
  rw [afterStep_ok, wp_bind, wp_get, afterStep_ok, wp_bind, wp_vizAttempt]
  rcases planChunkPreview_spec chunk state.tcpPose profile viz.controlHz with
    ⟨e, unresolved, raised⟩ | ⟨c, preview, resolved, planned, starts⟩
  · rw [raised]
    exact ⟨rfl, Or.inl ⟨e, unresolved, rfl, rfl⟩⟩
  · rw [planned, afterStep_ok, wp_bind, wp_modify, afterStep_ok]
    exact ⟨rfl, Or.inr ⟨c, preview, resolved, rfl, starts, rfl⟩⟩

theorem wp_waitForClick (step : Int) (timeout : Option K) (viz : RobotViz K) (seen : GateSeen K) :
    wp gateSeen (waitForClick step timeout)
      (fun out viz' seen' => viz'.preview = viz.preview ∧
        viz'.previewMd = viz.previewMd ++ [.awaiting step] ∧ seen'.state = seen.state ∧
        ∃ yes, out = .ok yes ∧ (seen.verdict = false →
          (yes = true ↔ seen'.clicked = true ∧ seen'.verdict = true))) viz seen := by
  unfold waitForClick
  rw [wp_bind, wp_modify, afterStep_ok, wp_bind, wp_vizPerform]
  intro _
  rw [afterStep_ok, wp_bind, wp_modify, afterStep_ok, wp_bind, wp_vizPerform]
  intro set
  rw [afterStep_ok]
  cases set with
  | true =>
      change wp gateSeen (vizPerform .gateVerdict) _ _ _
      rw [wp_vizPerform]
      intro verdict
      refine ⟨rfl, rfl, rfl, verdict, rfl, fun _ => ?_⟩
      exact ⟨fun yes => ⟨rfl, yes⟩, fun approved => approved.2⟩
  | false =>
      refine ⟨rfl, rfl, rfl, false, rfl, fun _ => ?_⟩
      constructor
      · intro yes
        cases yes
      · intro approved
        cases approved.1

end Gate

section Fresh

theorem poseDistance_self (pose : Pose ℝ) : poseDistance pose pose = (0, 0) := by
  unfold poseDistance
  rw [quatAngle_of_aligned rfl, ← Vec3.norm_toE, Vec3.toE_sub, sub_self, norm_zero]

theorem not_stale (pose : Pose ℝ) :
    ¬ (staleLinearM < (poseDistance pose pose).1 ∨ staleAngularRad < (poseDistance pose pose).2) := by
  rw [poseDistance_self]
  unfold staleLinearM staleAngularRad
  rw [Scalar.ofRat_real, Scalar.ofRat_real]
  norm_num

/-- How a call of the gate ends: an approval shows a preview that starts at the pose read. -/
structure GateEnds (requireClick : Bool) (chunk : CartesianChunk ℝ) (out : Except Exc Bool)
    (viz : RobotViz ℝ) (seen : GateSeen ℝ) : Prop where
  approves : out = .ok true ↔ seen.Approves requireClick chunk
  shows : out = .ok true → ∃ state preview, seen.state = some state ∧
    viz.preview = some preview ∧ preview.startPose = state.tcpPose

theorem GateEnds.refused {requireClick : Bool} {chunk : CartesianChunk ℝ} {out : Except Exc Bool}
    {viz : RobotViz ℝ} {seen : GateSeen ℝ} (no : out ≠ .ok true)
    (lacks : ¬ seen.Approves requireClick chunk) : GateEnds requireClick chunk out viz seen where
  approves := ⟨fun yes => absurd yes no, fun approves => absurd approves lacks⟩
  shows := fun yes => absurd yes no

theorem wp_gate_shown {requireClick : Bool} {timeout : Option ℝ} {step : Int}
    {chunk c : CartesianChunk ℝ} {state : RobotState ℝ} {preview : ChunkPreview ℝ}
    {viz : RobotViz ℝ} {seen : GateSeen ℝ} (read : seen.state = some state)
    (verdict : seen.verdict = false) (resolved : chunk.forExecution state.tcpPose = .ok c)
    (starts : preview.startPose = state.tcpPose) (shown : viz.preview = some preview) :
    wp gateSeen (if requireClick then waitForClick step timeout else pure true)
      (GateEnds requireClick chunk) viz seen := by
  cases requireClick with
  | false =>
      refine ⟨⟨fun _ => ⟨state, read, ⟨c, resolved⟩, ?_⟩, fun _ => rfl⟩, fun _ => ?_⟩
      · intro asked
        cases asked
      · exact ⟨state, preview, read, shown, starts⟩
  | true =>
      change wp gateSeen (waitForClick step timeout) _ _ _
      apply wp_mono (wp_waitForClick step timeout viz seen)
      rintro out viz' seen' ⟨kept, _, same, yes, ended, exact_when⟩
      subst ended
      have clicks := exact_when verdict
      refine ⟨⟨?_, ?_⟩, fun _ => ⟨state, preview, same.trans read, kept.trans shown, starts⟩⟩
      · intro approved
        cases approved
        exact ⟨state, same.trans read, ⟨c, resolved⟩, fun _ => clicks.mp rfl⟩
      · rintro ⟨_, _, _, approved⟩
        rw [clicks.mpr (approved rfl)]

theorem wp_gate (requireClick : Bool) (timeout : Option ℝ) (step : Int) (chunk : CartesianChunk ℝ)
    (viz : RobotViz ℝ) :
    wp gateSeen (gate requireClick timeout step chunk) (GateEnds requireClick chunk) viz {} := by
  unfold gate
  rw [wp_bind]
  apply wp_mono (wp_gateState viz {} rfl)
  rintro out viz' seen ⟨same, found, failed, _, verdict⟩
  subst same
  cases out with
  | error e =>
      apply GateEnds.refused
      · intro yes
        cases yes
      · rintro ⟨state, read, _⟩
        rw [failed e rfl] at read
        cases read
  | ok answer =>
      have read := found answer rfl
      rw [afterStep_ok]
      cases answer with
      | none =>
          apply GateEnds.refused
          · intro yes
            cases yes
          · rintro ⟨state, other, _⟩
            rw [read] at other
            cases other
      | some state =>
          dsimp only
          rw [wp_bind]
          apply wp_mono (wp_previewChunk chunk state (toString step) viz' seen)
          rintro out vizShown seen' ⟨same, ⟨e, unresolved, raised, _⟩ |
            ⟨c, preview, resolved, planned, starts, shown⟩⟩
          · subst same
            subst raised
            apply GateEnds.refused
            · intro yes
              cases yes
            · rintro ⟨state', other, ⟨c, resolved⟩, _⟩
              rw [read] at other
              cases other
              rw [unresolved] at resolved
              cases resolved
          · subst same
            subst planned
            subst shown
            rw [afterStep_ok, starts]
            rw [if_neg (not_stale state.tcpPose)]
            exact wp_gate_shown read verdict resolved starts rfl

def WithinStale (a b : Pose ℝ) : Prop :=
  (poseDistance a b).1 ≤ staleLinearM ∧ (poseDistance a b).2 ≤ staleAngularRad

/-- An approval at `now` means that the arm is still where the preview shown starts. -/
def ApprovedFresh (live : ℝ → Pose ℝ) (now : ℝ) (out : Except Exc Bool) (viz : RobotViz ℝ) : Prop :=
  out = .ok true → ∃ preview, viz.preview = some preview ∧ WithinStale preview.startPose (live now)

/-- Approvals are fresh exactly if the arm stays within the thresholds from the moment the
gate reads its pose, wherever the gate approves. -/
theorem approved_fresh_iff {requireClick : Bool} {timeout : Option ℝ} {step : Int}
    {chunk : CartesianChunk ℝ} {viz viz' : RobotViz ℝ} {calls : List (Call (vizEffects ℝ))}
    {out : Except Exc Bool}
    (ran : Trace (gate requireClick timeout step chunk viz) calls (.done (out, viz')))
    {live : ℝ → Pose ℝ} {read : ℝ}
    (measured : ∀ state, (gateSeen.run {} calls).state = some state → state.tcpPose = live read)
    (now : ℝ) :
    ApprovedFresh live now out viz' ↔
      ((gateSeen.run {} calls).Approves requireClick chunk → WithinStale (live read) (live now)) := by
  have admitted := gateSeen.admitted_of_forall (fun _ _ => trivial) ({} : GateSeen ℝ) calls
  have ends : GateEnds requireClick chunk out viz' (gateSeen.run {} calls) :=
    (Program.wp_sound (wp_gate requireClick timeout step chunk viz) ran admitted).2
  constructor
  · intro fresh approves
    obtain ⟨state, preview, seen, shown, starts⟩ := ends.shows (ends.approves.mpr approves)
    obtain ⟨preview', shown', within⟩ := fresh (ends.approves.mpr approves)
    rw [shown] at shown'
    cases shown'
    rw [starts, measured state seen] at within
    exact within
  · intro within yes
    obtain ⟨state, preview, seen, shown, starts⟩ := ends.shows yes
    refine ⟨preview, shown, ?_⟩
    rw [starts, measured state seen]
    exact within (ends.approves.mp yes)

noncomputable def planning : List (Call (vizEffects ℝ)) := [⟨.activeProfile, some tabletop⟩]

noncomputable def approving : List (Call (vizEffects ℝ)) :=
  [⟨.clearGateEvent, ()⟩, ⟨.waitGateEvent none, true⟩, ⟨.gateVerdict, true⟩]

noncomputable def approval : List (Call (vizEffects ℝ)) :=
  [⟨.getState, .ok poised⟩] ++ (planning ++ approving)

theorem approval_runs : ∃ viz' preview,
    Trace (gate true none 1 raiseChunk { attached := true }) approval (.done (.ok true, viz')) ∧
      viz'.preview = some preview ∧ preview.startPose = overTable := by
  let start : RobotViz ℝ := { attached := true }
  obtain ⟨preview, planned, starts⟩ : ∃ preview,
      planChunkPreview raiseChunk overTable (some tabletop) start.controlHz = .ok preview ∧
        preview.startPose = overTable := ⟨_, rfl, rfl⟩
  let viz := start.render preview (toString (1 : Int))
  let left : RobotViz ℝ :=
    { viz with approveGroup := true, previewMd := viz.previewMd ++ [.awaiting 1] }
  have attempted : Trace ((vizAttempt (planChunkPreview raiseChunk overTable (some tabletop)
      start.controlHz) : VizM ℝ (ChunkPreview ℝ)) start) [] (.done (.ok preview, start)) := by
    rw [planned]
    exact .nil _
  have profiled : Trace ((previewProfile none : VizM ℝ _) start) planning
      (.done (.ok (some tabletop), start)) := .cons (.nil _)
  have shown : Trace (previewChunk raiseChunk (some poised) none (toString (1 : Int)) start)
      (planning ++ []) (.done (.ok preview, viz)) := by
    unfold previewChunk
    apply trace_silent (.nil _)
    apply Script.trace_then profiled
    apply trace_silent (.nil _)
    apply trace_silent attempted
    exact trace_silent (.nil _) (.nil _)
  have clicked : Trace (waitForClick 1 none viz) approving (.done (.ok true, left)) :=
    .cons (.cons (.cons (.nil _)))
  have read : Trace (gateState start) [⟨.getState, .ok poised⟩]
      (.done (.ok (some poised), start)) := .cons (.nil _)
  refine ⟨left, preview, ?_, rfl, starts⟩
  unfold gate
  apply Script.trace_then read
  apply Script.trace_then shown
  rw [starts]
  have fresh : ¬ (staleLinearM < (overTable.pos - poised.tcpPose.pos).norm ∨
      staleAngularRad < quatAngle overTable.quat poised.tcpPose.quat) := not_stale overTable
  change Trace ((if _ then _ else _ : VizM ℝ Bool) viz) _ _
  rw [if_neg fresh, if_pos rfl]
  exact clicked

theorem approved_fresh_iff_standing : ∃ viz',
    Trace (gate true none 1 raiseChunk { attached := true }) approval (.done (.ok true, viz')) ∧
      ApprovedFresh (fun _ => overTable) 1 (.ok true) viz' := by
  obtain ⟨viz', preview, ran, shown, starts⟩ := approval_runs
  refine ⟨viz', ran, (@approved_fresh_iff true none 1 raiseChunk _ viz' approval _ ran
    (fun _ => overTable) 0 ?_ 1).mpr fun _ => ?_⟩
  · intro state seen
    cases seen
    rfl
  · unfold WithinStale
    rw [poseDistance_self]
    unfold staleLinearM staleAngularRad
    rw [Scalar.ofRat_real, Scalar.ofRat_real]
    norm_num

noncomputable def risen (time : ℝ) : Pose ℝ := if time ≤ 0 then overTable else raiseCall.target

/-- The operator approves a preview that starts 5 cm below the arm. -/
theorem stale_preview_approved : ∃ viz', Trace (gate true none 1 raiseChunk { attached := true })
      approval (.done (.ok true, viz')) ∧ risen 0 = poised.tcpPose ∧
      ¬ ApprovedFresh risen 1 (.ok true) viz' := by
  obtain ⟨viz', preview, ran, shown, starts⟩ := approval_runs
  refine ⟨viz', ran, if_pos le_rfl, ?_⟩
  intro fresh
  obtain ⟨preview', shown', near, _⟩ := fresh rfl
  rw [shown] at shown'
  cases shown'
  have now : risen 1 = raiseCall.target := if_neg (by norm_num)
  have apart : (overTable.pos - raiseCall.target.pos).norm = 1 / 20 := by
    rw [← raise_norm, ← Vec3.norm_toE, ← Vec3.norm_toE, Vec3.toE_sub, Vec3.toE_sub, norm_sub_rev]
  rw [starts, now] at near
  unfold poseDistance staleLinearM at near
  dsimp only at near
  rw [apart, Scalar.ofRat_real] at near
  norm_num at near

end Fresh

end FlexivControl
