/-
Sequences of facade calls on one robot, each issued after the one before has returned.

A call may return a value or raise; the caller goes on with the next one either way, and
the last may still be running. A monitor watches the backend through all of them.
-/

import FlexivControl.Robot.Rules

namespace FlexivControl

open Script

variable {K : Type} [Scalar K]

inductive FacadeCall (K : Type) [Scalar K] where
  | startCartesianImpedance (impedance : Option (ImpedanceParams K)) (realtime : Bool)
      (forceControl : Option (ForceControlParams K)) (nullspaceQ : Option (List K))
  | startJointImpedance (jointImpedance : Option (JointImpedanceParams K)) (realtime : Bool)
  | servoCartesianDelta (translation rotation : Vec3 K) (duration : Option K) (frame : String)
      (gripper : Option (GripperCommand K))
  | servoCartesianPose (pose : Pose K) (duration : K) (gripper : Option (GripperCommand K))
  | executeCartesianChunk (chunk : CartesianChunk K) (raiseOnStop record : Bool)
  | executeJointChunk (chunk : JointChunk K) (raiseOnStop : Bool)
  | moveJoint (qTarget : List K) (duration maxJointSpeed : Option K) (realtime : Bool)
  | home (q : Option (List K)) (maxJointSpeed duration : Option K)
  | goHomeSafe (qHome : Option (List K)) (liftM : K) (openGripperWidth : Option K)
      (maxTcpSpeed maxJointSpeed : K)
  | zeroFtSensor
  | stop
  | setSafetyProfile (name : String)

def discard {α : Type} (x : RobotM K α) : RobotM K Unit := do
  let _ ← x
  pure ()

def FacadeCall.run : FacadeCall K → RobotM K Unit
  | .startCartesianImpedance impedance realtime forceControl nullspaceQ =>
      FlexivControl.startCartesianImpedance impedance realtime forceControl nullspaceQ
  | .startJointImpedance jointImpedance realtime =>
      FlexivControl.startJointImpedance jointImpedance realtime
  | .servoCartesianDelta translation rotation duration frame gripper =>
      discard (FlexivControl.servoCartesianDelta translation rotation duration frame gripper)
  | .servoCartesianPose pose duration gripper =>
      discard (FlexivControl.servoCartesianPose pose duration gripper)
  | .executeCartesianChunk chunk raiseOnStop record =>
      discard (FlexivControl.executeCartesianChunk chunk raiseOnStop record)
  | .executeJointChunk chunk raiseOnStop =>
      discard (FlexivControl.executeJointChunk chunk raiseOnStop)
  | .moveJoint qTarget duration maxJointSpeed realtime =>
      discard (FlexivControl.moveJoint qTarget duration maxJointSpeed realtime)
  | .home q maxJointSpeed duration => FlexivControl.home q maxJointSpeed duration
  | .goHomeSafe qHome liftM openGripperWidth maxTcpSpeed maxJointSpeed =>
      discard
        (FlexivControl.goHomeSafe qHome liftM openGripperWidth maxTcpSpeed maxJointSpeed)
  | .zeroFtSensor => FlexivControl.zeroFtSensor
  | .stop => FlexivControl.stop
  | .setSafetyProfile name => FlexivControl.setSafetyProfile name

section Runs

variable {σ : Type} (m : Monitor (effects K) σ) (meets : Robot K → σ → FacadeCall K → Prop)

/-- The operations the calls perform, answered as `m` admits; each call is issued where it
`meets` a condition on the robot and the monitor's state. -/
inductive FacadeRun : Robot K → σ → List (FacadeCall K) → List (Call (effects K)) → Prop where
  | idle (robot : Robot K) (s : σ) : FacadeRun robot s [] []
  | running {robot : Robot K} {s : σ} {call : FacadeCall K} {ops : List (Call (effects K))}
      {left : Program (effects K) (Except Exc Unit × Robot K)} (met : meets robot s call)
      (ran : Trace (call.run robot) ops left) (admitted : m.Admitted s ops) :
      FacadeRun robot s [call] ops
  | returned {robot robot' : Robot K} {s : σ} {call : FacadeCall K} {out : Except Exc Unit}
      {ops later : List (Call (effects K))} {calls : List (FacadeCall K)}
      (met : meets robot s call) (ran : Trace (call.run robot) ops (.done (out, robot')))
      (admitted : m.Admitted s ops) (rest : FacadeRun robot' (m.run s ops) calls later) :
      FacadeRun robot s (call :: calls) (ops ++ later)

variable {m meets}

theorem FacadeRun.allowed {inv : Robot K → σ → Prop}
    (kept : ∀ call robot s, inv robot s → meets robot s call →
      wp m call.run (fun _ robot' s' => inv robot' s') robot s)
    {robot : Robot K} {s : σ} {calls : List (FacadeCall K)} {ops : List (Call (effects K))}
    (ran : FacadeRun m meets robot s calls ops) (start : inv robot s) : m.Allowed s ops := by
  induction ran with
  | idle robot s => trivial
  | running met ran admitted => exact Program.wp_allowed (kept _ _ _ start met) ran admitted
  | returned met ran admitted rest ih =>
      obtain ⟨allowed, left⟩ := Program.wp_sound (kept _ _ _ start met) ran admitted
      rw [Monitor.allowed_append]
      exact ⟨allowed, ih left⟩

end Runs

end FlexivControl
