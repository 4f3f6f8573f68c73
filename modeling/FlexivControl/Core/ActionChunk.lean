/-
The action contract: chunks of Cartesian or joint waypoints, and the report a
blocking execution returns.

A waypoint carries the proof that it is timed, and a chunk the proof that it has
a waypoint, so the validation of the constructors is never repeated.
-/

import FlexivControl.Core.Transforms

namespace FlexivControl

variable {K : Type} [Scalar K]

structure CartesianWaypoint (K : Type) [Scalar K] where
  position : Vec3 K
  quaternion : Option (Quat K)
  gripper : Option (GripperCommand K)
  nFrames : Option Int
  duration : Option K
  frame : String
  timed : nFrames.isSome ∨ duration.isSome
  framesPositive : ∀ n, nFrames = some n → 0 < n

/-- The constructor's validation; a given orientation is normalised. -/
def CartesianWaypoint.create (position : Vec3 K) (quaternion : Option (Quat K))
    (gripper : Option (GripperCommand K)) (nFrames : Option Int) (duration : Option K)
    (frame : String := "base") : Except Exc (CartesianWaypoint K) := do
  let quaternion ← match quaternion with
    | none => pure none
    | some q =>
        if q.norm < eps then throw ⟨.valueError, "zero-norm quaternion"⟩
        else pure (some (q / q.norm))
  if timed : nFrames.isSome ∨ duration.isSome then
    if framesPositive : ∀ n ∈ nFrames, 0 < n then
      pure { position, quaternion, gripper, nFrames, duration, frame, timed, framesPositive }
    else throw ⟨.valueError, "n_frames must be positive"⟩
  else throw ⟨.valueError, "CartesianWaypoint needs either n_frames or duration"⟩

def resolveDuration (nFrames : Option Int) (duration : Option K) (controlHz : K) : K :=
  match duration, nFrames with
  | some duration, _ => duration
  | none, some n => Scalar.ofInt n / controlHz
  | none, none => 0

def CartesianWaypoint.resolveDuration (w : CartesianWaypoint K) (controlHz : K) : K :=
  FlexivControl.resolveDuration w.nFrames w.duration controlHz

inductive ChunkRepresentation where
  | absolute
  | relativeToStart
  deriving DecidableEq, Repr

structure CartesianChunk (K : Type) [Scalar K] where
  waypoints : List (CartesianWaypoint K)
  impedance : ImpedanceParams K := {}
  forceControl : Option (ForceControlParams K) := none
  maxTcpLinearSpeed : K := Scalar.ofRat (25 / 100)
  maxTcpAngularSpeed : K := Scalar.ofRat (60 / 100)
  maxTcpLinearAcc : K := 1
  maxTcpAngularAcc : K := Scalar.ofNat 2
  maxContactWrench : Option (Wrench K) := none
  contactWrenchAllowance : Option (Wrench K) := none
  gripTrackingGateM : Option K := none
  safetyProfile : String := ""
  frame : String := "base"
  representation : ChunkRepresentation := .absolute
  nExecute : Option Int := none
  nonempty : waypoints ≠ []
  allowanceNonneg : ∀ a ∈ contactWrenchAllowance, ∀ axis, ¬ a axis < 0
  gatePositive : ∀ g ∈ gripTrackingGateM, ¬ g ≤ 0

theorem no_allowance : ∀ a ∈ (none : Option (Wrench K)), ∀ axis, ¬ a axis < 0 := by
  intro a none
  cases none

theorem no_gate : ∀ g ∈ (none : Option K), ¬ g ≤ 0 := by
  intro g none
  cases none

def CartesianChunk.horizonExec (c : CartesianChunk K) : Nat :=
  let n := c.nExecute.getD c.waypoints.length
  (max 1 (min n c.waypoints.length)).toNat

def CartesianWaypoint.toAbsolute (start : Pose K) (w : CartesianWaypoint K) :
    Except Exc (CartesianWaypoint K) :=
  let absPos := start.pos + quatRotate start.quat w.position
  let absQuat := match w.quaternion with
    | none => start.quat
    | some q => quatNormalize (quatMul start.quat q)
  CartesianWaypoint.create absPos (some absQuat) w.gripper w.nFrames w.duration w.frame

theorem mapM_ne_nil {α β : Type} {f : α → Except Exc β} {xs : List α} {ys : List β}
    (nonempty : xs ≠ []) (mapped : xs.mapM f = .ok ys) : ys ≠ [] := by
  cases xs with
  | nil => exact absurd rfl nonempty
  | cons x rest =>
      rw [List.mapM_cons] at mapped
      cases head : f x with
      | error e => rw [head] at mapped; cases mapped
      | ok y =>
          cases tail : rest.mapM f with
          | error e => rw [head, tail] at mapped; cases mapped
          | ok zs =>
              rw [head, tail] at mapped
              cases mapped
              exact List.cons_ne_nil y zs

/-- Relative waypoints are composed onto the live start pose, each on its own. -/
def CartesianChunk.resolveToAbsolute (c : CartesianChunk K) (start : Pose K) :
    Except Exc (CartesianChunk K) :=
  match c.representation with
  | .absolute => .ok c
  | .relativeToStart =>
      match resolved : c.waypoints.mapM (CartesianWaypoint.toAbsolute start) with
      | .error e => .error e
      | .ok waypoints => .ok { c with
          waypoints
          representation := .absolute
          nonempty := mapM_ne_nil c.nonempty resolved }

/-- Resolve, then keep the first `horizonExec` waypoints. -/
def CartesianChunk.forExecution (c : CartesianChunk K) (start : Pose K) :
    Except Exc (CartesianChunk K) := do
  let resolved ← c.resolveToAbsolute start
  let he := c.horizonExec
  if he ≥ resolved.waypoints.length then pure resolved
  else
    pure { resolved with
      waypoints := resolved.waypoints.take he
      nExecute := none
      nonempty := by
        intro empty
        rcases List.take_eq_nil_iff.mp empty with none | gone
        · have positive : 0 < c.horizonExec := by
            unfold CartesianChunk.horizonExec
            dsimp only
            omega
          omega
        · exact resolved.nonempty gone }

/-! ### Joint chunks -/

structure JointWaypoint (K : Type) [Scalar K] where
  positions : List K
  nFrames : Option Int := none
  duration : Option K := none
  timed : nFrames.isSome ∨ duration.isSome

def JointWaypoint.resolveDuration (w : JointWaypoint K) (controlHz : K) : K :=
  FlexivControl.resolveDuration w.nFrames w.duration controlHz

structure JointChunk (K : Type) [Scalar K] where
  waypoints : List (JointWaypoint K)
  maxJointSpeedScale : K := Scalar.ofRat (3 / 10)
  safetyProfile : String := ""
  nonempty : waypoints ≠ []

/-! ### The report of a blocking execution -/

structure ResultSummary (K : Type) where
  success : Bool
  stopReason : StopReason
  executedDuration : K
  clipped : Bool
  pathTrackingError : K
  gripperWidthFinal : K

/-- The values the executors put into a report's log. -/
inductive LogValue (K : Type) where
  | flag (value : Bool)
  | text (value : String)
  | number (value : K)
  | numbers (value : List K)
  | index (value : Nat)
  | rows (value : List (List K))
  | summary (value : ResultSummary K)
  | failed (error : Exc)
  | openedTo (width : K)
  | closeAborted (segment : Nat) (trackingErrorM : K) (gateM : K) (clipped : Bool)
  | closeStopped (segment : Nat) (reason : StopReason) (gateM : K) (clipped : Bool)

structure ExecutionResult (K : Type) [Scalar K] where
  success : Bool := true
  clipped : Bool := false
  stopReason : StopReason := .none
  executedDuration : K := 0
  pathTrackingError : K := 0
  maxTcpSpeed : K := 0
  maxJointSpeed : K := 0
  maxWrench : K := 0
  gripperWidthFinal : K := 0
  finalState : Option (RobotState K) := none
  log : List (String × LogValue K) := []

def ExecutionResult.summary (r : ExecutionResult K) : ResultSummary K where
  success := r.success
  stopReason := r.stopReason
  executedDuration := r.executedDuration
  clipped := r.clipped
  pathTrackingError := r.pathTrackingError
  gripperWidthFinal := r.gripperWidthFinal

def ExecutionResult.note (r : ExecutionResult K) (key : String) (value : LogValue K) :
    ExecutionResult K :=
  { r with log := (r.log.filter fun entry => entry.1 != key) ++ [(key, value)] }

def ExecutionResult.stop (r : ExecutionResult K) (reason : StopReason) : ExecutionResult K :=
  { r with success := false, stopReason := reason }

end FlexivControl
