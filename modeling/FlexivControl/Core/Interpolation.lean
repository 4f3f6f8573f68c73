/-
High-level actions as a stream of fixed-rate setpoints: a cosine ease along each
segment, stretched to more ticks where a speed cap asks for it.
-/

import FlexivControl.Core.ActionChunk
import FlexivControl.Core.Safety

namespace FlexivControl

variable {K : Type} [Scalar K]

def blendPeak : K := Scalar.pi / Scalar.ofNat 2

def cosineBlend (s : K) : K :=
  Scalar.ofRat (1 / 2) - Scalar.ofRat (1 / 2) * Scalar.cos (Scalar.pi * Scalar.clip s 0 1)

/-- Ticks a cap asks of a segment; an absent or non-positive cap asks for none. -/
def cappedTicks (cap : Option K) (dt distance : K) : Int :=
  match cap with
  | none => 1
  | some cap => if 0 < cap then Scalar.ceil (blendPeak * distance / (cap * dt)) else 1

def requestedTicks (duration controlHz : K) : Int := max 1 (Scalar.round (duration * controlHz))

/-! ### Cartesian chunks -/

/-- One setpoint, with the segment it belongs to and that segment's tick count. -/
structure CartesianSetpoint (K : Type) [Scalar K] where
  pose : Pose K
  gripper : Option (GripperCommand K)
  segment : Nat
  segmentTicks : Nat

structure CartesianChunkInterpolator (K : Type) [Scalar K] where
  chunk : CartesianChunk K
  startPose : Pose K
  hz : K
  maxLinearSpeed : Option K := none
  maxAngularSpeed : Option K := none

namespace CartesianChunkInterpolator

def dt (interp : CartesianChunkInterpolator K) : K := 1 / interp.hz

def segmentTicks (interp : CartesianChunkInterpolator K) (prevPos tgtPos : Vec3 K)
    (prevQuat tgtQuat : Quat K) (wp : CartesianWaypoint K) : Nat :=
  let n := requestedTicks (wp.resolveDuration interp.hz) interp.hz
  let n := max n (cappedTicks interp.maxLinearSpeed interp.dt (tgtPos - prevPos).norm)
  let n := max n (cappedTicks interp.maxAngularSpeed interp.dt (quatAngle prevQuat tgtQuat))
  (max 1 n).toNat

/-- The gripper command goes out on the first tick of its segment. -/
def segment (prevPos tgtPos : Vec3 K) (prevQuat tgtQuat : Quat K)
    (gripper : Option (GripperCommand K)) (segIdx n : Nat) : List (CartesianSetpoint K) :=
  (List.range n).map fun k =>
    let s := cosineBlend (Scalar.ofNat (k + 1) / Scalar.ofNat n)
    { pose := ⟨prevPos + (tgtPos - prevPos) * s, quatSlerp prevQuat tgtQuat s⟩
      gripper := if k = 0 then gripper else none
      segment := segIdx
      segmentTicks := n }

def setpointsFrom (interp : CartesianChunkInterpolator K) (prevPos : Vec3 K) (prevQuat : Quat K)
    (segIdx : Nat) : List (CartesianWaypoint K) → List (CartesianSetpoint K)
  | [] => []
  | wp :: rest =>
      let tgtQuat := wp.quaternion.getD prevQuat
      let n := interp.segmentTicks prevPos wp.position prevQuat tgtQuat wp
      segment prevPos wp.position prevQuat tgtQuat wp.gripper segIdx n ++
        interp.setpointsFrom wp.position tgtQuat (segIdx + 1) rest

def setpoints (interp : CartesianChunkInterpolator K) : List (CartesianSetpoint K) :=
  interp.setpointsFrom interp.startPose.pos interp.startPose.quat 0 interp.chunk.waypoints

end CartesianChunkInterpolator

/-! ### Joint chunks -/

def maxAbs (xs : List K) : Except Exc K :=
  match xs.map Scalar.abs with
  | [] => .error ⟨.valueError, "zero-size array to reduction operation maximum"⟩
  | x :: rest => .ok (rest.foldl Scalar.maximum x)

structure JointChunkInterpolator (K : Type) [Scalar K] where
  chunk : JointChunk K
  startQ : List K
  hz : K
  maxJointSpeed : Option K := none

namespace JointChunkInterpolator

def dt (interp : JointChunkInterpolator K) : K := 1 / interp.hz

/-- The generator's next values. A segment whose arrays do not fit raises when it
is reached, after the earlier segments have been handed out. -/
def setpointsFrom (interp : JointChunkInterpolator K) (prev : List K) :
    List (JointWaypoint K) → List (Except Exc (List K))
  | [] => []
  | wp :: rest =>
      let tgt := wp.positions
      let plan : Except Exc (Nat × List K) := do
        let n := requestedTicks (wp.resolveDuration interp.hz) interp.hz
        let move ← broadcast (· - ·) tgt prev
        let n ← match interp.maxJointSpeed with
          | none => pure n
          | some cap =>
              if 0 < cap then do
                let dq ← maxAbs move
                pure (max n (cappedTicks (some cap) interp.dt dq))
              else pure n
        pure ((max 1 n).toNat, move)
      match plan with
      | .error e => [.error e]
      | .ok (n, move) =>
          ((List.range n).map fun k =>
            let s := cosineBlend (Scalar.ofNat (k + 1) / Scalar.ofNat n)
            broadcast (· + ·) prev (move.map (s * ·))) ++ interp.setpointsFrom tgt rest

def setpoints (interp : JointChunkInterpolator K) : List (Except Exc (List K)) :=
  interp.setpointsFrom interp.startQ interp.chunk.waypoints

end JointChunkInterpolator

end FlexivControl
