/-
The preview of a chunk: the command stream it plans, beside the stream that is executed.

Both resolve the chunk against the start pose and run the same interpolator. They read the
chunk's speed caps apart: the executor passes over a cap that is not positive, the preview
only over one that is zero. A cap that is negative or not a number, which the preview takes
for the smaller, binds nothing in the interpolator.
-/

import FlexivControl.Library.Ieee
import FlexivControl.Robot.Untouched

namespace FlexivControl

variable {K : Type} [Scalar K]

/-- A violation, with the numbers its message renders. -/
inductive ChunkProblem (K : Type) where
  | outside (index : Nat) (position : Vec3 K)
  | linearSpeed (index : Nat) (peak cap stretched : K)
  | angularSpeed (index : Nat) (peak cap stretched : K)

def SafetyProfile.outsideBox (p : SafetyProfile K) (pos : Vec3 K) : Bool :=
  decide (pos.x < p.wsX.1) || decide (pos.y < p.wsY.1) || decide (pos.z < p.wsZ.1) ||
    (decide (p.wsX.2 < pos.x) || decide (p.wsY.2 < pos.y) || decide (p.wsZ.2 < pos.z))

/-- What the caps say of the way from the waypoint before. -/
def speedProblems (linCap angCap : K) (index : Nat) (prev : Vec3 K) (prevQuat : Option (Quat K))
    (w : CartesianWaypoint K) : List (ChunkProblem K) :=
  match w.duration with
  | none => []
  | some dur =>
      if 0 < dur then
        let dist := (w.position - prev).norm
        let linear := if linCap < blendPeak * dist / dur then
            [.linearSpeed index (blendPeak * dist / dur) linCap (blendPeak * dist / linCap)]
          else []
        let angular := match prevQuat, w.quaternion with
          | some before, some quaternion =>
              let ang := quatAngle before quaternion
              if angCap < blendPeak * ang / dur then
                [.angularSpeed index (blendPeak * ang / dur) angCap (blendPeak * ang / angCap)]
              else []
          | _, _ => []
        linear ++ angular
      else []

def SafetyProfile.problemsFrom (p : SafetyProfile K) (linCap angCap : K) (index : Nat)
    (prev : Option (Vec3 K)) (prevQuat : Option (Quat K)) :
    List (CartesianWaypoint K) → List (ChunkProblem K)
  | [] => []
  | w :: rest =>
      (if p.outsideBox w.position then [.outside index w.position] else []) ++
        (match prev with
          | none => []
          | some prev => speedProblems linCap angCap index prev prevQuat w) ++
        p.problemsFrom linCap angCap (index + 1) (some w.position) (w.quaternion <|> prevQuat) rest

def SafetyProfile.validateChunk (p : SafetyProfile K) (chunk : CartesianChunk K) :
    List (ChunkProblem K) :=
  p.problemsFrom (tightenedCap p.maxLinearSpeed chunk.maxTcpLinearSpeed)
    (tightenedCap p.maxAngularSpeed chunk.maxTcpAngularSpeed) 0 none none chunk.waypoints

/-! ### The plan -/

def isInf (x : K) : Bool := !Scalar.isFinite x && decide (x ≤ x)

/-- The cap of one kind, `none` for infinity: what is not zero counts. -/
def effectiveCap (chunkCap : K) (profileCap : Option K) : Option K :=
  let cap := if chunkCap ≤ 0 ∧ 0 ≤ chunkCap then none else some chunkCap
  match profileCap, cap with
  | none, cap => cap
  | some limit, none => if Scalar.isFinite limit then some limit else none
  | some limit, some cap => some (Scalar.lesser cap limit)

def effectiveCaps (chunk : CartesianChunk K) (profile : Option (SafetyProfile K)) :
    Option K × Option K :=
  (effectiveCap chunk.maxTcpLinearSpeed (profile.map (·.maxLinearSpeed)),
    effectiveCap chunk.maxTcpAngularSpeed (profile.map (·.maxAngularSpeed)))

def bindingCap : Option K → Option K
  | none => none
  | some cap => if isInf cap then none else some cap

structure GripperEvent (K : Type) [Scalar K] where
  tick : Nat
  position : Vec3 K
  command : GripperCommand K
  closing : Bool

structure ChunkPreview (K : Type) [Scalar K] where
  setpoints : List (Pose K)
  gripperEvents : List (GripperEvent K) := []
  waypoints : List (Vec3 K) := []
  warnings : List (ChunkProblem K) := []
  durationS : K := 0
  nominalDurationS : K := 0
  linearSpeedCap : Option K
  angularSpeedCap : Option K
  startPose : Pose K

/-- The loop's variables. -/
structure PreviewRun (K : Type) [Scalar K] where
  poses : List (Pose K) := []
  events : List (GripperEvent K) := []
  prevWidth : Option K := none

/-- A grasp is always closing; a move is when it narrows the width commanded before. -/
def PreviewRun.gripperEvent (run : PreviewRun K) (pose : Pose K) (grip : GripperCommand K) :
    GripperEvent K :=
  let width := if grip.grasp then 0 else grip.width
  { tick := run.poses.length
    position := pose.pos
    command := grip
    closing := grip.grasp || (match run.prevWidth with
      | none => false
      | some before => decide (width < before - Scalar.ofRat (1 / 1000000))) }

def PreviewRun.take (run : PreviewRun K) (s : CartesianSetpoint K) : PreviewRun K :=
  match s.gripper with
  | none => { run with poses := run.poses ++ [s.pose] }
  | some grip =>
      { poses := run.poses ++ [s.pose]
        events := run.events ++ [run.gripperEvent s.pose grip]
        prevWidth := some (if grip.grasp then 0 else grip.width) }

def CartesianChunk.totalDuration (chunk : CartesianChunk K) (controlHz : K) : K :=
  (chunk.waypoints.map (·.resolveDuration controlHz)).foldl (· + ·) 0

def previewInterpolator (resolved : CartesianChunk K) (startPose : Pose K)
    (profile : Option (SafetyProfile K)) (controlHz : K) : CartesianChunkInterpolator K where
  chunk := resolved
  startPose := startPose
  hz := controlHz
  maxLinearSpeed := bindingCap (effectiveCaps resolved profile).1
  maxAngularSpeed := bindingCap (effectiveCaps resolved profile).2

def planChunkPreview (chunk : CartesianChunk K) (startPose : Pose K)
    (profile : Option (SafetyProfile K) := none) (controlHz : K := Scalar.ofNat 100) :
    Except Exc (ChunkPreview K) := do
  let resolved ← chunk.forExecution startPose
  let caps := effectiveCaps resolved profile
  let run := (previewInterpolator resolved startPose profile controlHz).setpoints.foldl
    PreviewRun.take {}
  pure
    { setpoints := run.poses
      gripperEvents := run.events
      waypoints := resolved.waypoints.map (·.position)
      warnings := match profile with
        | none => []
        | some profile => profile.validateChunk resolved
      durationS := Scalar.ofNat run.poses.length / controlHz
      nominalDurationS := resolved.totalDuration controlHz
      linearSpeedCap := caps.1
      angularSpeedCap := caps.2
      startPose := startPose }

/-! ### The stream beside it -/

/-- The setpoints `executeCartesianChunk` runs through when it starts from this pose. -/
def executedStream (chunk : CartesianChunk K) (startPose : Pose K) (profile : SafetyProfile K)
    (controlHz : K) : Except Exc (List (CartesianSetpoint K)) := do
  let resolved ← chunk.forExecution startPose
  pure (executorInterpolator resolved startPose profile controlHz).setpoints

def gripsOf (stream : List (CartesianSetpoint K)) : List (Nat × GripperCommand K) :=
  stream.zipIdx.filterMap fun (s, tick) => s.gripper.map fun grip => (tick, grip)

/-- The preview shows a stream's poses and its gripper commands at their ticks. -/
structure Shows (preview : ChunkPreview K) (stream : List (CartesianSetpoint K)) : Prop where
  poses : preview.setpoints = stream.map (·.pose)
  grips : preview.gripperEvents.map (fun event => (event.tick, event.command)) = gripsOf stream

/-! ### When they agree -/

structure ChunkMove (K : Type) [Scalar K] where
  prevPos : Vec3 K
  tgtPos : Vec3 K
  prevQuat : Quat K
  tgtQuat : Quat K
  wp : CartesianWaypoint K

def movesFrom (prevPos : Vec3 K) (prevQuat : Quat K) :
    List (CartesianWaypoint K) → List (ChunkMove K)
  | [] => []
  | wp :: rest =>
      let tgtQuat := wp.quaternion.getD prevQuat
      ⟨prevPos, wp.position, prevQuat, tgtQuat, wp⟩ :: movesFrom wp.position tgtQuat rest

def CapCounts (cap : Option K) (dt distance : K) : Prop :=
  ∀ limit, cap = some limit → 0 < limit →
    Scalar.isFinite (blendPeak * distance / (limit * dt)) = true

/-- Nothing raises as the ticks of the segment are counted. -/
structure ChunkMove.Counts (move : ChunkMove K) (interp : CartesianChunkInterpolator K) : Prop where
  requested : Scalar.isFinite (move.wp.resolveDuration interp.hz * interp.hz) = true
  linear : CapCounts interp.maxLinearSpeed interp.dt (move.tgtPos - move.prevPos).norm
  angular : CapCounts interp.maxAngularSpeed interp.dt (quatAngle move.prevQuat move.tgtQuat)

/-- The interpolator yields all its setpoints: it can divide by the rate, and it can count. -/
structure CartesianChunkInterpolator.Counts (interp : CartesianChunkInterpolator K) : Prop where
  rate : ¬ (interp.hz ≤ 0 ∧ 0 ≤ interp.hz)
  moves : ∀ move ∈ movesFrom interp.startPose.pos interp.startPose.quat interp.chunk.waypoints,
    move.Counts interp

/-- Where the executor's interpolator yields a stream, so does the preview's, and the preview
shows that stream; and both raise the same where the chunk does not resolve. -/
def PreviewsExecution (chunk : CartesianChunk K) (startPose : Pose K) (profile : SafetyProfile K)
    (controlHz : K) : Prop :=
  match planChunkPreview chunk startPose (some profile) controlHz,
    executedStream chunk startPose profile controlHz with
  | .ok preview, .ok stream => ∀ resolved, chunk.forExecution startPose = .ok resolved →
      ((previewInterpolator resolved startPose (some profile) controlHz).Counts ↔
        (executorInterpolator resolved startPose profile controlHz).Counts) ∧
      ((executorInterpolator resolved startPose profile controlHz).Counts → Shows preview stream)
  | .error e, .error e' => e = e'
  | _, _ => False

/-- The preview passes over the cap in force: the chunk's is negative or not a number, or the
cap in force is infinite. -/
def CapDropped (limit chunkCap : K) : Prop :=
  (¬ (chunkCap ≤ 0 ∧ 0 ≤ chunkCap) ∧ ¬ 0 < chunkCap) ∨ isInf (tightenedCap limit chunkCap) = true

instance (limit chunkCap : K) : Decidable (CapDropped limit chunkCap) :=
  inferInstanceAs (Decidable (_ ∨ _))

namespace ChunkMove

variable (move : ChunkMove K) (chunk : CartesianChunk K) (profile : SafetyProfile K) (controlHz : K)

def ticks (interp : CartesianChunkInterpolator K) : Nat :=
  interp.segmentTicks move.prevPos move.tgtPos move.prevQuat move.tgtQuat move.wp

/-- What the linear caps ask of the segment, the profile's for a chunk cap that is not
positive. -/
def linearTicks : Int :=
  cappedTicks (some (tightenedCap profile.maxLinearSpeed chunk.maxTcpLinearSpeed)) (1 / controlHz)
    (move.tgtPos - move.prevPos).norm

def angularTicks : Int :=
  cappedTicks (some (tightenedCap profile.maxAngularSpeed chunk.maxTcpAngularSpeed)) (1 / controlHz)
    (quatAngle move.prevQuat move.tgtQuat)

/-- Ticks of the segment by its timing and by the caps that are not passed over. -/
def plainTicks : Int :=
  max (requestedTicks (move.wp.resolveDuration controlHz) controlHz)
    (max (if CapDropped profile.maxLinearSpeed chunk.maxTcpLinearSpeed then 1
        else move.linearTicks chunk profile controlHz)
      (if CapDropped profile.maxAngularSpeed chunk.maxTcpAngularSpeed then 1
        else move.angularTicks chunk profile controlHz))

/-- A cap that is passed over asks for a number of ticks, and for none beyond the others. -/
structure Unslowed : Prop where
  linear : CapDropped profile.maxLinearSpeed chunk.maxTcpLinearSpeed →
    CapCounts (some (tightenedCap profile.maxLinearSpeed chunk.maxTcpLinearSpeed))
        (1 / controlHz) (move.tgtPos - move.prevPos).norm ∧
      move.linearTicks chunk profile controlHz ≤ move.plainTicks chunk profile controlHz
  angular : CapDropped profile.maxAngularSpeed chunk.maxTcpAngularSpeed →
    CapCounts (some (tightenedCap profile.maxAngularSpeed chunk.maxTcpAngularSpeed))
        (1 / controlHz) (quatAngle move.prevQuat move.tgtQuat) ∧
      move.angularTicks chunk profile controlHz ≤ move.plainTicks chunk profile controlHz

end ChunkMove

theorem setpointsFrom_length (interp : CartesianChunkInterpolator K)
    (waypoints : List (CartesianWaypoint K)) (prevPos : Vec3 K) (prevQuat : Quat K) (segIdx : Nat) :
    (interp.setpointsFrom prevPos prevQuat segIdx waypoints).length =
      ((movesFrom prevPos prevQuat waypoints).map (·.ticks interp)).sum := by
  induction waypoints generalizing prevPos prevQuat segIdx with
  | nil => rfl
  | cons wp rest ih =>
      simp only [CartesianChunkInterpolator.setpointsFrom, CartesianChunkInterpolator.segment,
        movesFrom, List.length_append, List.length_map, List.length_range, List.map_cons,
        List.sum_cons, ih]
      rfl

theorem setpointsFrom_congr {a b : CartesianChunkInterpolator K}
    (waypoints : List (CartesianWaypoint K)) (prevPos : Vec3 K) (prevQuat : Quat K) (segIdx : Nat)
    (same : ∀ move ∈ movesFrom prevPos prevQuat waypoints, move.ticks a = move.ticks b) :
    a.setpointsFrom prevPos prevQuat segIdx waypoints =
      b.setpointsFrom prevPos prevQuat segIdx waypoints := by
  induction waypoints generalizing prevPos prevQuat segIdx with
  | nil => rfl
  | cons wp rest ih =>
      have first := same _ List.mem_cons_self
      have later := ih wp.position (wp.quaternion.getD prevQuat) (segIdx + 1) fun move member =>
        same move (List.mem_cons_of_mem _ member)
      unfold ChunkMove.ticks at first
      dsimp only at first
      simp only [CartesianChunkInterpolator.setpointsFrom]
      rw [first, later]

theorem sum_map_eq_iff {α : Type} {f g : α → Nat} {xs : List α} (le : ∀ x ∈ xs, f x ≤ g x) :
    (xs.map f).sum = (xs.map g).sum ↔ ∀ x ∈ xs, f x = g x := by
  induction xs with
  | nil => simp
  | cons x rest ih =>
      rw [List.forall_mem_cons] at le
      have below : (rest.map f).sum ≤ (rest.map g).sum := List.sum_le_sum le.2
      rw [List.forall_mem_cons, ← ih le.2, List.map_cons, List.map_cons, List.sum_cons, List.sum_cons]
      have first := le.1
      omega

/-- The planning loop keeps every pose, and each gripper command with its tick. -/
theorem foldl_take (stream : List (CartesianSetpoint K)) (run : PreviewRun K) :
    (stream.foldl PreviewRun.take run).poses = run.poses ++ stream.map (·.pose) ∧
      (stream.foldl PreviewRun.take run).events.map (fun event => (event.tick, event.command)) =
        run.events.map (fun event => (event.tick, event.command)) ++
          (stream.zipIdx run.poses.length).filterMap
            fun (s, tick) => s.gripper.map fun grip => (tick, grip) := by
  induction stream generalizing run with
  | nil => simp
  | cons s rest ih =>
      obtain ⟨poses, events⟩ := ih (run.take s)
      have counted : (run.take s).poses = run.poses ++ [s.pose] := by
        unfold PreviewRun.take
        cases s.gripper <;> rfl
      rw [List.foldl_cons, poses, events, counted, List.zipIdx_cons]
      constructor
      · simp
      · unfold PreviewRun.take
        cases grip : s.gripper with
        | none => simp [grip]
        | some grip => simp [grip, PreviewRun.gripperEvent]

theorem gripsOf_poses {a b : List (CartesianSetpoint K)} (same : a = b) :
    a.map (·.pose) = b.map (·.pose) ∧ gripsOf a = gripsOf b := by
  subst same
  exact ⟨rfl, rfl⟩

/-- Both raise what the resolution raises, and else two streams are compared. -/
theorem previewsExecution_iff (chunk : CartesianChunk K) (startPose : Pose K)
    (profile : SafetyProfile K) (controlHz : K) :
    PreviewsExecution chunk startPose profile controlHz ↔
      ∀ resolved, chunk.forExecution startPose = .ok resolved →
        let planned := previewInterpolator resolved startPose (some profile) controlHz
        let executed := executorInterpolator resolved startPose profile controlHz
        (planned.Counts ↔ executed.Counts) ∧ (executed.Counts →
          planned.setpoints.map (·.pose) = executed.setpoints.map (·.pose) ∧
            gripsOf planned.setpoints = gripsOf executed.setpoints) := by
  unfold PreviewsExecution planChunkPreview executedStream
  cases resolution : chunk.forExecution startPose with
  | error e =>
      constructor
      · intro _ resolved impossible
        cases impossible
      · intro _
        rfl
  | ok resolved =>
      have kept := foldl_take
        (previewInterpolator resolved startPose (some profile) controlHz).setpoints {}
      constructor
      · intro previews other same
        cases same
        obtain ⟨both, shows⟩ := previews resolved rfl
        refine ⟨both, fun counts => ?_⟩
        have shown := shows counts
        exact ⟨kept.1.symm.trans shown.poses, kept.2.symm.trans shown.grips⟩
      · intro agree other same
        cases same
        obtain ⟨both, streams⟩ := agree resolved rfl
        refine ⟨both, fun counts => ?_⟩
        obtain ⟨poses, grips⟩ := streams counts
        exact ⟨kept.1.trans poses, kept.2.trans grips⟩

section Executor

variable {resolved : CartesianChunk K} {profile : SafetyProfile K} {startPose : Pose K}
  {controlHz : K}

theorem requestedTicks_pos (duration hz : K) : 1 ≤ requestedTicks duration hz := le_max_left _ _

theorem ticks_executor (move : ChunkMove K) :
    (move.ticks (executorInterpolator resolved startPose profile controlHz) : Int) =
      max (requestedTicks (move.wp.resolveDuration controlHz) controlHz)
        (max (move.linearTicks resolved profile controlHz)
          (move.angularTicks resolved profile controlHz)) := by
  have requested := requestedTicks_pos (move.wp.resolveDuration controlHz) controlHz
  unfold ChunkMove.ticks CartesianChunkInterpolator.segmentTicks
  change ((max 1 (max (max (requestedTicks (move.wp.resolveDuration controlHz) controlHz)
    (move.linearTicks resolved profile controlHz))
      (move.angularTicks resolved profile controlHz))).toNat : Int) = _
  omega

theorem plainTicks_le (move : ChunkMove K) :
    move.plainTicks resolved profile controlHz ≤
      max (requestedTicks (move.wp.resolveDuration controlHz) controlHz)
        (max (move.linearTicks resolved profile controlHz)
          (move.angularTicks resolved profile controlHz)) := by
  have requested := requestedTicks_pos (move.wp.resolveDuration controlHz) controlHz
  unfold ChunkMove.plainTicks
  split_ifs <;> omega

end Executor

section Caps

variable {chunkCap limit : Ieee}

theorem bindingCap_kept (positive : 0 < limit) (kept : ¬ CapDropped limit chunkCap) :
    bindingCap (effectiveCap chunkCap (some limit)) = some (tightenedCap limit chunkCap) := by
  obtain ⟨read, bounded⟩ := not_or.mp kept
  have finite (cap : Ieee) (same : cap = tightenedCap limit chunkCap) :
      bindingCap (some cap) = some cap := by
    subst same
    exact if_neg bounded
  by_cases zero : chunkCap ≤ 0 ∧ 0 ≤ chunkCap
  · have same : limit = tightenedCap limit chunkCap :=
      (if_neg (Ieee.not_pos_of_le_zero zero.1)).symm
    have small : limit ≠ .inf false := by
      intro infinite
      apply bounded
      rw [← same, infinite]
      exact decide_eq_true (Or.inr rfl)
    unfold effectiveCap
    rw [if_pos zero]
    dsimp only
    rw [if_pos (Ieee.isFinite_of_pos positive small), ← same]
    exact finite limit same
  · have above : 0 < chunkCap := by
      by_contra below
      exact read ⟨zero, below⟩
    have same : Scalar.lesser chunkCap limit = tightenedCap limit chunkCap := by
      rw [tightenedCap, if_pos above]
      exact Ieee.lesser_swap (Ieee.ne_nan_of_pos above) (Ieee.ne_nan_of_pos positive)
    unfold effectiveCap
    rw [if_neg zero, ← same]
    exact finite _ same

theorem bindingCap_dropped (positive : 0 < limit) (dropped : CapDropped limit chunkCap)
    {cap : Ieee} (binding : bindingCap (effectiveCap chunkCap (some limit)) = some cap) :
    ¬ 0 < cap := by
  have passes {cap cap' : Ieee} (binding : bindingCap (some cap) = some cap') :
      isInf cap = false ∧ cap = cap' := by
    unfold bindingCap at binding
    dsimp only at binding
    split at binding
    · cases binding
    · rename_i bounded
      exact ⟨Bool.eq_false_iff.mpr bounded, Option.some.inj binding⟩
  by_cases zero : chunkCap ≤ 0 ∧ 0 ≤ chunkCap
  · have unread := Ieee.not_pos_of_le_zero zero.1
    have infinite : isInf limit = true := by
      rcases dropped with ⟨nonzero, _⟩ | infinite
      · exact absurd zero nonzero
      · rwa [tightenedCap, if_neg unread] at infinite
    have unbounded : Scalar.isFinite limit = false :=
      Bool.eq_false_iff.mpr fun finite => by
        rw [isInf, finite] at infinite
        cases infinite
    unfold effectiveCap at binding
    rw [if_pos zero] at binding
    dsimp only at binding
    rw [unbounded] at binding
    cases binding
  · unfold effectiveCap at binding
    rw [if_neg zero] at binding
    obtain ⟨bounded, same⟩ := passes binding
    subst same
    rcases dropped with ⟨_, below⟩ | infinite
    · unfold Scalar.lesser
      rw [if_neg fun less => below (Ieee.pos_of_lt positive less)]
      exact below
    · by_cases above : 0 < chunkCap
      · rw [tightenedCap, if_pos above, Ieee.lesser_swap (Ieee.ne_nan_of_pos positive)
          (Ieee.ne_nan_of_pos above), bounded] at infinite
        cases infinite
      · unfold Scalar.lesser
        rw [if_neg fun less => above (Ieee.pos_of_lt positive less)]
        exact above

theorem cappedTicks_bindingCap (positive : 0 < limit) (chunkCap dt distance : Ieee) :
    cappedTicks (bindingCap (effectiveCap chunkCap (some limit))) dt distance =
      if CapDropped limit chunkCap then 1
      else cappedTicks (some (tightenedCap limit chunkCap)) dt distance := by
  by_cases dropped : CapDropped limit chunkCap
  · rw [if_pos dropped]
    cases binding : bindingCap (effectiveCap chunkCap (some limit)) with
    | none => rfl
    | some cap => exact if_neg (bindingCap_dropped positive dropped binding)
  · rw [if_neg dropped, bindingCap_kept positive dropped]

theorem capCounts_bindingCap (positive : 0 < limit) (chunkCap dt distance : Ieee) :
    CapCounts (bindingCap (effectiveCap chunkCap (some limit))) dt distance ↔
      (¬ CapDropped limit chunkCap →
        CapCounts (some (tightenedCap limit chunkCap)) dt distance) := by
  by_cases dropped : CapDropped limit chunkCap
  · constructor
    · exact fun _ kept => absurd dropped kept
    · intro _ cap binding above
      exact absurd above (bindingCap_dropped positive dropped binding)
  · rw [bindingCap_kept positive dropped]
    exact ⟨fun counts _ => counts, fun counts => counts dropped⟩

variable {resolved : CartesianChunk Ieee} {profile : SafetyProfile Ieee} {startPose : Pose Ieee}
  {controlHz : Ieee}

theorem ticks_preview (linear : 0 < profile.maxLinearSpeed) (angular : 0 < profile.maxAngularSpeed)
    (move : ChunkMove Ieee) :
    (move.ticks (previewInterpolator resolved startPose (some profile) controlHz) : Int) =
      move.plainTicks resolved profile controlHz := by
  have requested := requestedTicks_pos (move.wp.resolveDuration controlHz) controlHz
  unfold ChunkMove.ticks CartesianChunkInterpolator.segmentTicks ChunkMove.plainTicks
    ChunkMove.linearTicks ChunkMove.angularTicks
  rw [← cappedTicks_bindingCap linear, ← cappedTicks_bindingCap angular]
  change ((max 1 (max (max (requestedTicks (move.wp.resolveDuration controlHz) controlHz)
    (cappedTicks (bindingCap (effectiveCap resolved.maxTcpLinearSpeed (some profile.maxLinearSpeed)))
      (1 / controlHz) (move.tgtPos - move.prevPos).norm))
    (cappedTicks (bindingCap (effectiveCap resolved.maxTcpAngularSpeed
      (some profile.maxAngularSpeed))) (1 / controlHz)
        (quatAngle move.prevQuat move.tgtQuat)))).toNat : Int) = _
  omega

/-- The executor counts a segment that the preview counts, unless it stumbles over a cap that
is passed over there. -/
theorem counts_iff (linear : 0 < profile.maxLinearSpeed) (angular : 0 < profile.maxAngularSpeed)
    (move : ChunkMove Ieee) :
    move.Counts (executorInterpolator resolved startPose profile controlHz) ↔
      move.Counts (previewInterpolator resolved startPose (some profile) controlHz) ∧
        (CapDropped profile.maxLinearSpeed resolved.maxTcpLinearSpeed →
          CapCounts (some (tightenedCap profile.maxLinearSpeed resolved.maxTcpLinearSpeed))
            (1 / controlHz) (move.tgtPos - move.prevPos).norm) ∧
        (CapDropped profile.maxAngularSpeed resolved.maxTcpAngularSpeed →
          CapCounts (some (tightenedCap profile.maxAngularSpeed resolved.maxTcpAngularSpeed))
            (1 / controlHz) (quatAngle move.prevQuat move.tgtQuat)) := by
  have first := capCounts_bindingCap linear resolved.maxTcpLinearSpeed (1 / controlHz)
    (move.tgtPos - move.prevPos).norm
  have second := capCounts_bindingCap angular resolved.maxTcpAngularSpeed (1 / controlHz)
    (quatAngle move.prevQuat move.tgtQuat)
  constructor
  · intro counts
    exact ⟨⟨counts.requested, first.mpr fun _ => counts.linear,
      second.mpr fun _ => counts.angular⟩, fun _ => counts.linear, fun _ => counts.angular⟩
  · rintro ⟨counts, droppedLinear, droppedAngular⟩
    refine ⟨counts.requested, ?_, ?_⟩
    · by_cases dropped : CapDropped profile.maxLinearSpeed resolved.maxTcpLinearSpeed
      · exact droppedLinear dropped
      · exact first.mp counts.linear dropped
    · by_cases dropped : CapDropped profile.maxAngularSpeed resolved.maxTcpAngularSpeed
      · exact droppedAngular dropped
      · exact second.mp counts.angular dropped

/-- Where both count, they count the same exactly if no cap passed over stretches the segment. -/
theorem ticks_eq_iff (linear : 0 < profile.maxLinearSpeed) (angular : 0 < profile.maxAngularSpeed)
    (move : ChunkMove Ieee) :
    move.ticks (previewInterpolator resolved startPose (some profile) controlHz) =
        move.ticks (executorInterpolator resolved startPose profile controlHz) ↔
      (CapDropped profile.maxLinearSpeed resolved.maxTcpLinearSpeed →
          move.linearTicks resolved profile controlHz ≤ move.plainTicks resolved profile controlHz) ∧
        (CapDropped profile.maxAngularSpeed resolved.maxTcpAngularSpeed →
          move.angularTicks resolved profile controlHz ≤
            move.plainTicks resolved profile controlHz) := by
  rw [← Int.natCast_inj, ticks_preview linear angular, ticks_executor]
  have below := @plainTicks_le Ieee _ resolved profile controlHz move
  have plain : move.plainTicks resolved profile controlHz =
    max (requestedTicks (move.wp.resolveDuration controlHz) controlHz)
      (max (if CapDropped profile.maxLinearSpeed resolved.maxTcpLinearSpeed then 1
          else move.linearTicks resolved profile controlHz)
        (if CapDropped profile.maxAngularSpeed resolved.maxTcpAngularSpeed then 1
          else move.angularTicks resolved profile controlHz)) := rfl
  constructor
  · intro same
    constructor
    · intro _
      omega
    · intro _
      omega
  · rintro ⟨unslowedLinear, unslowedAngular⟩
    by_cases droppedLinear : CapDropped profile.maxLinearSpeed resolved.maxTcpLinearSpeed
    · have first := unslowedLinear droppedLinear
      by_cases droppedAngular : CapDropped profile.maxAngularSpeed resolved.maxTcpAngularSpeed
      · have second := unslowedAngular droppedAngular
        omega
      · rw [if_neg droppedAngular] at plain
        omega
    · rw [if_neg droppedLinear] at plain
      by_cases droppedAngular : CapDropped profile.maxAngularSpeed resolved.maxTcpAngularSpeed
      · have second := unslowedAngular droppedAngular
        omega
      · rw [if_neg droppedAngular] at plain
        omega

/-- The two streams of a resolved chunk are the same exactly if their tick counts are. -/
theorem streams_agree_iff (linear : 0 < profile.maxLinearSpeed)
    (angular : 0 < profile.maxAngularSpeed) :
    let planned := (previewInterpolator resolved startPose (some profile) controlHz).setpoints
    let executed := (executorInterpolator resolved startPose profile controlHz).setpoints
    (planned.map (·.pose) = executed.map (·.pose) ∧ gripsOf planned = gripsOf executed) ↔
      ∀ move ∈ movesFrom startPose.pos startPose.quat resolved.waypoints,
        move.ticks (previewInterpolator resolved startPose (some profile) controlHz) =
          move.ticks (executorInterpolator resolved startPose profile controlHz) := by
  have counted (interp : CartesianChunkInterpolator Ieee)
      (startsThere : interp.startPose = startPose) (runs : interp.chunk = resolved) :
      interp.setpoints.length =
        ((movesFrom startPose.pos startPose.quat resolved.waypoints).map (·.ticks interp)).sum := by
    subst startsThere runs
    exact setpointsFrom_length interp _ _ _ _
  have fewer : ∀ move ∈ movesFrom startPose.pos startPose.quat resolved.waypoints,
      move.ticks (previewInterpolator resolved startPose (some profile) controlHz) ≤
        move.ticks (executorInterpolator resolved startPose profile controlHz) := by
    intro move _
    rw [← Int.ofNat_le, ticks_preview linear angular, ticks_executor]
    exact plainTicks_le move
  constructor
  · intro agree
    have lengths := congrArg List.length agree.1
    rw [List.length_map, List.length_map, counted _ rfl rfl, counted _ rfl rfl] at lengths
    exact (sum_map_eq_iff fewer).mp lengths
  · intro same
    exact gripsOf_poses (setpointsFrom_congr _ _ _ _ same)

theorem interpolators_agree_iff (linear : 0 < profile.maxLinearSpeed)
    (angular : 0 < profile.maxAngularSpeed) :
    let planned := previewInterpolator resolved startPose (some profile) controlHz
    let executed := executorInterpolator resolved startPose profile controlHz
    ((planned.Counts ↔ executed.Counts) ∧ (executed.Counts →
        planned.setpoints.map (·.pose) = executed.setpoints.map (·.pose) ∧
          gripsOf planned.setpoints = gripsOf executed.setpoints)) ↔
      (planned.Counts → ∀ move ∈ movesFrom startPose.pos startPose.quat resolved.waypoints,
        move.Unslowed resolved profile controlHz) := by
  intro planned executed
  constructor
  · rintro ⟨both, agree⟩ counts move member
    have executedCounts := both.mp counts
    obtain ⟨_, countsLinear, countsAngular⟩ :=
      (counts_iff linear angular move).mp (executedCounts.moves move member)
    obtain ⟨stretchLinear, stretchAngular⟩ := (ticks_eq_iff linear angular move).mp
      ((streams_agree_iff linear angular).mp (agree executedCounts) move member)
    exact ⟨fun dropped => ⟨countsLinear dropped, stretchLinear dropped⟩,
      fun dropped => ⟨countsAngular dropped, stretchAngular dropped⟩⟩
  · intro unslowed
    have back (counts : executed.Counts) : planned.Counts :=
      ⟨counts.rate, fun move member =>
        ((counts_iff linear angular move).mp (counts.moves move member)).1⟩
    refine ⟨⟨fun counts => ⟨counts.rate, ?_⟩, back⟩, fun counts => ?_⟩
    · intro move member
      have free := unslowed counts move member
      exact (counts_iff linear angular move).mpr ⟨counts.moves move member,
        fun dropped => (free.linear dropped).1, fun dropped => (free.angular dropped).1⟩
    · apply (streams_agree_iff linear angular).mpr
      intro move member
      have free := unslowed (back counts) move member
      exact (ticks_eq_iff linear angular move).mpr
        ⟨fun dropped => (free.linear dropped).2, fun dropped => (free.angular dropped).2⟩

end Caps

/-- The preview shows what is executed exactly if, wherever it has a stream to show, no cap
it passes over asks for more ticks of an executed segment than its timing and the other caps
do, or for a number of ticks that does not exist. -/
theorem preview_is_executed_iff (chunk : CartesianChunk Ieee) (startPose : Pose Ieee)
    (profile : SafetyProfile Ieee) (controlHz : Ieee) (linear : 0 < profile.maxLinearSpeed)
    (angular : 0 < profile.maxAngularSpeed) :
    PreviewsExecution chunk startPose profile controlHz ↔
      ∀ resolved, chunk.forExecution startPose = .ok resolved →
        (previewInterpolator resolved startPose (some profile) controlHz).Counts →
          ∀ move ∈ movesFrom startPose.pos startPose.quat resolved.waypoints,
            move.Unslowed resolved profile controlHz := by
  rw [previewsExecution_iff]
  constructor
  · intro agree resolved resolution
    exact (interpolators_agree_iff linear angular).mp (agree resolved resolution)
  · intro unslowed resolved resolution
    exact (interpolators_agree_iff linear angular).mpr (unslowed resolved resolution)

section Raise

open Ieee

theorem ieee_one_norm : (1 : Quat Ieee).norm = .fin 1 := by
  change Scalar.sqrt (fin 1 * fin 1 + fin 0 * fin 0 + fin 0 * fin 0 + fin 0 * fin 0) = _
  rw [fin_mul, fin_mul, fin_add, fin_add, fin_add, fin_sqrt (by norm_num)]
  norm_num

theorem ieee_unturned : quatAngle (1 : Quat Ieee) 1 = .fin 0 := by
  have unit : quatNormalize (1 : Quat Ieee) = 1 := by
    have large : ¬ (fin 1 : Ieee) < eps := by
      rw [eps, ofRat_eq, fin_lt]
      norm_num
    have divided : (1 : Quat Ieee) / fin 1 = 1 := by
      change (⟨fin 1 / fin 1, fin 0 / fin 1, fin 0 / fin 1, fin 0 / fin 1⟩ : Quat Ieee) =
        ⟨fin 1, fin 0, fin 0, fin 0⟩
      simp only [fin_div _ one_ne_zero, div_one]
    have upright : ¬ (fin 1 : Ieee) < 0 := by
      rw [zero_eq, fin_lt]
      norm_num
    unfold quatNormalize
    dsimp only
    rw [ieee_one_norm, if_neg large, divided]
    exact if_neg upright
  have dot : (1 : Quat Ieee).dot 1 = .fin 1 := by
    change fin 1 * fin 1 + fin 0 * fin 0 + fin 0 * fin 0 + fin 0 * fin 0 = _
    rw [fin_mul, fin_mul, fin_add, fin_add, fin_add]
    norm_num
  unfold quatAngle
  dsimp only
  rw [unit, dot, fin_abs, one_eq, fin_neg, fin_greater, fin_lesser, Scalar.abs_real,
    Scalar.greater_real, Scalar.lesser_real, ofNat_eq, abs_one, max_eq_right (by norm_num),
    min_self, fin_arccos (by norm_num) le_rfl, Real.arccos_one, fin_mul, mul_zero]

noncomputable def ieeeRaise (linear angular : Ieee) : CartesianChunk Ieee where
  waypoints := [{
    position := ⟨.fin (1 / 2), .fin 0, .fin (4 / 10)⟩
    quaternion := none
    gripper := none
    nFrames := some 10
    duration := none
    frame := "base"
    timed := tenFrames_timed
    framesPositive := tenFrames_positive }]
  maxTcpLinearSpeed := linear
  maxTcpAngularSpeed := angular
  nonempty := List.cons_ne_nil _ _
  allowanceNonneg := no_allowance
  gatePositive := no_gate

noncomputable def ieeeStart : Pose Ieee := ⟨⟨.fin (1 / 2), .fin 0, .fin (3 / 10)⟩, 1⟩

theorem ieeeTabletop_speeds : ({} : SafetyProfile Ieee).maxLinearSpeed = fin (1 / 4) ∧
    ({} : SafetyProfile Ieee).maxAngularSpeed = fin (3 / 5) := by
  change Scalar.ofRat (25 / 100) = _ ∧ Scalar.ofRat (60 / 100) = _
  rw [ofRat_eq, ofRat_eq]
  norm_num

theorem ieeeTabletop_caps : 0 < ({} : SafetyProfile Ieee).maxLinearSpeed ∧
    0 < ({} : SafetyProfile Ieee).maxAngularSpeed := by
  rw [ieeeTabletop_speeds.1, ieeeTabletop_speeds.2, zero_eq, fin_lt, fin_lt]
  norm_num

variable {linear angular : Ieee}

/-- The only segment. -/
theorem ieeeRaise_move {move : ChunkMove Ieee}
    (member : move ∈ movesFrom ieeeStart.pos ieeeStart.quat (ieeeRaise linear angular).waypoints) :
    (move.tgtPos - move.prevPos).norm = .fin (1 / 10) ∧
      quatAngle move.prevQuat move.tgtQuat = .fin 0 ∧
      move.wp.resolveDuration (.fin 100) * .fin 100 = (.fin 10 : Ieee) := by
  have same := List.mem_singleton.mp member
  subst same
  refine ⟨?_, ieee_unturned, ?_⟩
  · change Scalar.sqrt ((fin (1 / 2) - fin (1 / 2)) * (fin (1 / 2) - fin (1 / 2)) +
      (fin 0 - fin 0) * (fin 0 - fin 0) +
        (fin (4 / 10) - fin (3 / 10)) * (fin (4 / 10) - fin (3 / 10))) = _
    rw [fin_sub, fin_sub, fin_sub, fin_mul, fin_mul, fin_mul, fin_add, fin_add,
      fin_sqrt (by norm_num)]
    congr 1
    rw [Real.sqrt_eq_iff_mul_self_eq (by norm_num) (by norm_num)]
    norm_num
  · change (Scalar.ofInt 10 / fin 100) * fin 100 = _
    rw [Scalar.ofInt, ofRat_eq, fin_div _ (by norm_num), fin_mul]
    norm_num

theorem ieeeRaise_requested {move : ChunkMove Ieee}
    (member : move ∈ movesFrom ieeeStart.pos ieeeStart.quat (ieeeRaise linear angular).waypoints) :
    requestedTicks (move.wp.resolveDuration (.fin 100)) (.fin 100) = 10 := by
  unfold requestedTicks
  rw [(ieeeRaise_move member).2.2]
  change max 1 (Scalar.roundEven 10) = 10
  norm_num [Scalar.roundEven]

theorem cappedTicks_fin {cap distance : ℝ} (positive : 0 < cap) :
    cappedTicks (some (fin cap)) (1 / fin 100) (fin distance) =
      ⌈Real.pi / 2 * distance / (cap * (1 / 100))⌉ := by
  have peak : (blendPeak : Ieee) = .fin (Real.pi / 2) := by
    change fin Real.pi / Scalar.ofNat 2 = _
    rw [ofNat_eq, fin_div _ (by norm_num)]
    norm_num
  unfold cappedTicks
  dsimp only
  have above : (0 : Ieee) < fin cap := positive
  rw [if_pos above, peak, one_eq, fin_div _ (by norm_num), fin_mul, fin_mul,
    fin_div _ (by positivity)]
  rfl

theorem capCounts_fin (cap distance : ℝ) :
    CapCounts (some (fin cap)) (1 / fin 100) (fin distance) := by
  intro limit same positive
  cases same
  have positive : 0 < cap := positive
  have finite : (blendPeak * fin distance / (fin cap * (1 / fin 100)) : Ieee).Finite := by
    have peak : (blendPeak : Ieee).Finite := by
      unfold blendPeak
      rw [ofNat_eq]
      exact (finite_fin Real.pi).div (by norm_num)
    rw [one_eq, fin_div _ (by norm_num), fin_mul]
    exact (peak.mul (finite_fin distance)).div (by positivity)
  exact (isFinite_iff _).mpr finite

theorem ieeeRaise_plainTicks {move : ChunkMove Ieee}
    (member : move ∈ movesFrom ieeeStart.pos ieeeStart.quat (ieeeRaise linear angular).waypoints)
    (dropped : CapDropped ({} : SafetyProfile Ieee).maxLinearSpeed linear) {turning : ℝ}
    (turns : tightenedCap ({} : SafetyProfile Ieee).maxAngularSpeed angular = fin turning)
    (positive : 0 < turning) :
    move.plainTicks (ieeeRaise linear angular) {} (.fin 100) = 10 := by
  have still : move.angularTicks (ieeeRaise linear angular) {} (.fin 100) = 0 := by
    unfold ChunkMove.angularTicks
    rw [(ieeeRaise_move member).2.1]
    change cappedTicks (some (tightenedCap ({} : SafetyProfile Ieee).maxAngularSpeed angular)) _ _ =
      0
    rw [turns, cappedTicks_fin positive, mul_zero, zero_div, Int.ceil_zero]
  unfold ChunkMove.plainTicks
  rw [ieeeRaise_requested member, still]
  change max 10 (max (if CapDropped ({} : SafetyProfile Ieee).maxLinearSpeed linear then 1 else _)
    _) = (10 : Int)
  rw [if_pos dropped]
  split_ifs <;> norm_num

/-- A cap on the turning that is not a number does no harm where the segment does not turn. -/
theorem preview_is_executed_iff_raise :
    PreviewsExecution (ieeeRaise (.fin 0) .nan) ieeeStart {} (.fin 100) := by
  apply (preview_is_executed_iff _ _ _ _ ieeeTabletop_caps.1 ieeeTabletop_caps.2).mpr
  intro resolved resolution _ move member
  have same : ieeeRaise (.fin 0) .nan = resolved := Except.ok.inj resolution
  subst same
  have speed : tightenedCap ({} : SafetyProfile Ieee).maxLinearSpeed (fin 0) = fin (1 / 4) := by
    have unread : ¬ (0 : Ieee) < fin 0 := not_pos_of_le_zero ((fin_le 0 0).mpr le_rfl)
    rw [tightenedCap, if_neg unread, ieeeTabletop_speeds.1]
  have turns : tightenedCap ({} : SafetyProfile Ieee).maxAngularSpeed nan = fin (3 / 5) := by
    rw [tightenedCap, if_neg (not_lt_nan 0), ieeeTabletop_speeds.2]
  constructor
  · intro dropped
    rcases dropped with ⟨nonzero, _⟩ | infinite
    · exact absurd ⟨(fin_le 0 0).mpr le_rfl, (fin_le 0 0).mpr le_rfl⟩ nonzero
    · change isInf (tightenedCap ({} : SafetyProfile Ieee).maxLinearSpeed (fin 0)) = true at infinite
      rw [speed] at infinite
      cases infinite
  · intro _
    have still := (ieeeRaise_move member).2.1
    have requested := ieeeRaise_requested member
    change CapCounts (some (tightenedCap ({} : SafetyProfile Ieee).maxAngularSpeed nan)) _ _ ∧
      cappedTicks (some (tightenedCap ({} : SafetyProfile Ieee).maxAngularSpeed nan)) _ _ ≤ _
    rw [turns, still]
    refine ⟨capCounts_fin _ _, ?_⟩
    rw [cappedTicks_fin (by norm_num), mul_zero, zero_div, Int.ceil_zero]
    unfold ChunkMove.plainTicks
    rw [requested]
    exact le_max_of_le_left (by norm_num)

theorem raise_unpreviewed (nonzero : ¬ (linear ≤ 0 ∧ 0 ≤ linear)) (unread : ¬ 0 < linear) :
    ¬ PreviewsExecution (ieeeRaise linear (.fin (3 / 5))) ieeeStart {} (.fin 100) := by
  intro previews
  have turns : tightenedCap ({} : SafetyProfile Ieee).maxAngularSpeed (fin (3 / 5)) =
      fin (3 / 5) := by
    have above : (0 : Ieee) < fin (3 / 5) := by
      rw [zero_eq, fin_lt]
      norm_num
    rw [ieeeTabletop_speeds.2, tightenedCap, if_pos above, fin_lesser, Scalar.lesser_real, min_self]
  have kept : tightenedCap ({} : SafetyProfile Ieee).maxLinearSpeed linear = fin (1 / 4) := by
    rw [tightenedCap, if_neg unread, ieeeTabletop_speeds.1]
  have dropped : CapDropped ({} : SafetyProfile Ieee).maxLinearSpeed linear :=
    Or.inl ⟨nonzero, unread⟩
  have counts : (previewInterpolator (ieeeRaise linear (.fin (3 / 5))) ieeeStart
      (some {}) (.fin 100)).Counts := by
    refine ⟨fun zero => ?_, fun move member => ⟨?_, ?_, ?_⟩⟩
    · have below : (100 : ℝ) ≤ 0 := zero.1
      norm_num at below
    · exact congrArg Scalar.isFinite (ieeeRaise_move member).2.2
    · exact (capCounts_bindingCap ieeeTabletop_caps.1 linear _ _).mpr
        fun read => absurd dropped read
    · refine (capCounts_bindingCap ieeeTabletop_caps.2 _ _ _).mpr fun _ => ?_
      change CapCounts (some (tightenedCap ({} : SafetyProfile Ieee).maxAngularSpeed
        (fin (3 / 5)))) (1 / fin 100) (quatAngle move.prevQuat move.tgtQuat)
      rw [turns, (ieeeRaise_move member).2.1]
      exact capCounts_fin _ _
  have agree := (previewsExecution_iff _ _ _ _).mp previews _ rfl
  obtain ⟨move, member⟩ : ∃ move, move ∈ movesFrom ieeeStart.pos ieeeStart.quat
      (ieeeRaise linear (.fin (3 / 5))).waypoints := ⟨_, List.mem_cons_self⟩
  have stretched := ((interpolators_agree_iff ieeeTabletop_caps.1 ieeeTabletop_caps.2).mp agree
    counts move member).linear dropped
  have long : (10 : Int) < ⌈Real.pi / 2 * (1 / 10) / (1 / 4 * (1 / 100))⌉ := by
    rw [Int.lt_ceil]
    have wide := Real.two_le_pi
    have value : Real.pi / 2 * (1 / 10) / (1 / 4 * (1 / 100)) = 20 * Real.pi := by ring
    rw [value]
    push_cast
    linarith
  have few := stretched.2
  rw [ieeeRaise_plainTicks member dropped turns (by norm_num)] at few
  unfold ChunkMove.linearTicks at few
  change cappedTicks (some (tightenedCap ({} : SafetyProfile Ieee).maxLinearSpeed linear)) _ _ ≤
    10 at few
  rw [kept, (ieeeRaise_move member).1, cappedTicks_fin (by norm_num)] at few
  exact absurd few (not_le.mpr long)

/-- The preview takes ten ticks where the executor takes more. -/
theorem preview_misses_profile_cap :
    (0 < ({} : SafetyProfile Ieee).maxLinearSpeed ∧
        0 < ({} : SafetyProfile Ieee).maxAngularSpeed) ∧
      ¬ PreviewsExecution (ieeeRaise (.fin (-1)) (.fin (3 / 5))) ieeeStart {} (.fin 100) ∧
      ¬ PreviewsExecution (ieeeRaise .nan (.fin (3 / 5))) ieeeStart {} (.fin 100) := by
  have below : (-1 : ℝ) < 0 := by norm_num
  refine ⟨ieeeTabletop_caps, raise_unpreviewed ?_ ?_, raise_unpreviewed ?_ (not_lt_nan 0)⟩
  · exact fun zero => absurd ((fin_le 0 (-1)).mp zero.2) (not_le.mpr below)
  · exact fun positive => absurd ((fin_lt 0 (-1)).mp positive) below.not_gt
  · exact fun zero => zero.1

end Raise

end FlexivControl
