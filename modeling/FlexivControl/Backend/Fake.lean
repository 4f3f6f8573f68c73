/-
The kinematic simulator behind the facade when there is no robot.

It tracks what it is commanded as a first-order system, records every command, and
refuses setpoints in a mode that does not fit them. Everything it answers but the clock
is decided by the commands it has had.
-/

import FlexivControl.Library.Environment
import FlexivControl.Library.FirstOrder
import FlexivControl.Robot.Rules
import FlexivControl.Wire.Codec

namespace FlexivControl

open Script

variable {K : Type} [Scalar K]

structure FakeBackend (K : Type) [Scalar K] where
  nJoints : Nat := nJointsDefault
  connected : Bool := false
  mode : ControlMode := .idle
  alpha : K := 1
  pose : Pose K := ⟨⟨Scalar.ofRat (45 / 100), 0, Scalar.ofRat (30 / 100)⟩, 1⟩
  q : List K := [0, -7 / 10, 0, 16 / 10, 0, 9 / 10, 0].map Scalar.ofRat
  gripperWidth : K := Scalar.ofRat (8 / 100)
  gripperForce : K := 0
  gripperMoving : Bool := false
  impedance : ImpedanceParams K := {}
  maxWrench : Wrench K := fun axis => if axis.val < 3 then Scalar.ofNat 40 else Scalar.ofNat 5
  fault : Bool := false
  cartesianLog : List (Pose K) := []
  jointLog : List (List K) := []
  gripperLog : List (GripperCommand K) := []
  modeLog : List ControlMode := []

namespace FakeBackend

def init (nJoints : Nat := nJointsDefault) (startPose : Option (Pose K) := none)
    (startQ : Option (List K) := none) (trackingAlpha : K := 1) : FakeBackend K :=
  let blank : FakeBackend K := {}
  { nJoints := nJoints, alpha := trackingAlpha, pose := startPose.getD blank.pose,
    q := startQ.getD blank.q }

def connect (g : FakeBackend K) : FakeBackend K := { g with connected := true }

def readState (g : FakeBackend K) (now : K) : RobotState K where
  stamp := now
  q := g.q
  dq := List.replicate g.nJoints 0
  tau := List.replicate g.nJoints 0
  tcpPose := g.pose
  gripperWidth := g.gripperWidth
  gripperForce := g.gripperForce
  gripperIsMoving := g.gripperMoving
  controlMode := g.mode
  safetyStatus := if g.fault then .fault else .ok
  stopReason := if g.fault then .backendFault else .none

def setMode (g : FakeBackend K) (mode : ControlMode) (params : ModeParams K) : FakeBackend K :=
  { g with
    mode := mode
    modeLog := g.modeLog ++ [mode]
    impedance := params.impedance.getD g.impedance
    maxWrench := params.maxContactWrench.getD g.maxWrench }

def tracked (g : FakeBackend K) (pose : Pose K) : Pose K where
  pos := g.pose.pos * (1 - g.alpha) + pose.pos * g.alpha
  quat := quatSlerp g.pose.quat (quatNormalize pose.quat) g.alpha

def followed (g : FakeBackend K) (pose : Pose K) : FakeBackend K :=
  { g with cartesianLog := g.cartesianLog ++ [pose], pose := g.tracked pose }

def streamCartesian (g : FakeBackend K) (pose : Pose K) : Except Exc Unit × FakeBackend K :=
  if g.mode.isCartesian then (.ok (), g.followed pose)
  else
    (.error ⟨.runtimeError, "stream_cartesian in mode '" ++ g.mode.value ++
      "': the real backend requires a Cartesian motion mode; call start_cartesian_impedance() " ++
      "first (Robot.execute_cartesian_chunk now auto-ensures it)"⟩, g)

/-- The command is recorded before the two arrays are combined, which may fail. -/
def streamJoint (g : FakeBackend K) (q : List K) : Except Exc Unit × FakeBackend K :=
  if g.mode.isCartesian ∨ g.mode = .idle then
    (.error ⟨.runtimeError, "stream_joint in mode '" ++ g.mode.value ++
      "': call start_joint_impedance() first (Robot.move_joint does this)"⟩, g)
  else
    let g := { g with jointLog := g.jointLog ++ [q] }
    match broadcast (fun x y => (1 - g.alpha) * x + g.alpha * y) g.q q with
    | .ok moved => (.ok (), { g with q := moved })
    | .error e => (.error e, g)

def setContactWrenchLimit (g : FakeBackend K) (wrench : Wrench K) : FakeBackend K :=
  { g with maxWrench := wrench }

def moveGripper (g : FakeBackend K) (cmd : GripperCommand K) : FakeBackend K :=
  { g with
    gripperLog := g.gripperLog ++ [cmd]
    gripperWidth := Scalar.clip cmd.width 0 (Scalar.ofRat (10 / 100))
    gripperForce := if cmd.grasp then cmd.force else 0
    gripperMoving := false }

def stop (g : FakeBackend K) : FakeBackend K := { g with mode := .idle }

def home (g : FakeBackend K) (qHome : Option (List K)) : FakeBackend K :=
  { g with
    q := qHome.getD ([0, -7 / 10, 0, 16 / 10, 0, 9 / 10, 0].map Scalar.ofRat)
    mode := .nrtPrimitive
    modeLog := g.modeLog ++ [.nrtPrimitive] }

/-- One command: what the caller is told, and the simulator afterwards. -/
def serve (g : FakeBackend K) : BackendCall K → Except Exc Unit × FakeBackend K
  | .setMode mode params => (.ok (), g.setMode mode params)
  | .streamCartesian pose _ => g.streamCartesian pose
  | .streamJoint q => g.streamJoint q
  | .moveGripper cmd => (.ok (), g.moveGripper cmd)
  | .stop => (.ok (), g.stop)
  | .setContactWrenchLimit wrench => (.ok (), g.setContactWrenchLimit wrench)
  | .home qHome => (.ok (), g.home (some qHome))
  | .zeroFtSensor => (.ok (), g)

/-! ### Behind the facade -/

/-- The simulator after an operation of the facade. -/
def after (g : FakeBackend K) (c : Call (effects K)) : FakeBackend K :=
  match c with
  | ⟨.write call, _⟩ => (g.serve call).2
  | _ => g

/-- What is answered: the simulator's state at some time, its fault flag, what became of a
command. The cancel flag is the facade's own and reads as `heard`. -/
def Answers (g : FakeBackend K) (heard : Bool → Prop) (c : Call (effects K)) : Prop :=
  match c with
  | ⟨.readState, answer⟩ => ∃ now, answer = .ok (g.readState now)
  | ⟨.inFault, answer⟩ => answer = .ok g.fault
  | ⟨.write call, answer⟩ => answer = (g.serve call).1
  | ⟨.cancelIsSet _, set⟩ => heard set
  | _ => True

end FakeBackend

/-- The simulator behind the facade's operations, watched for the states of `safe`. -/
def onFake (heard : Bool → Prop) (safe : FakeBackend K → Prop) :
    Monitor (effects K) (FakeBackend K) where
  observe := FakeBackend.after
  admits g c := g.Answers heard c
  allows g _ := safe g

/-- The operations are answered by the simulator `g`, the cancel flag in any way. -/
def FakeBackend.Answered (g : FakeBackend K) (calls : List (Call (effects K))) : Prop :=
  (onFake (fun _ => True) fun _ => True).Admitted g calls

/-- The simulator once they have been performed. -/
def FakeBackend.left (g : FakeBackend K) (calls : List (Call (effects K))) : FakeBackend K :=
  calls.foldl FakeBackend.after g

def Uncancelled (calls : List (Call (effects K))) : Prop :=
  ∀ site set, (⟨.cancelIsSet site, set⟩ : Call (effects K)) ∈ calls → set = false

theorem FakeBackend.Answered.uncancelled (calls : List (Call (effects K))) :
    ∀ {g : FakeBackend K}, g.Answered calls → Uncancelled calls →
      (onFake (fun set => set = false) fun _ => True).Admitted g calls := by
  induction calls with
  | nil => exact fun _ _ => trivial
  | cons c rest ih =>
      intro g answered calm
      refine ⟨?_,
        ih answered.2 fun site set member => calm site set (List.mem_cons_of_mem _ member)⟩
      have here := answered.1
      obtain ⟨op, answer⟩ := c
      cases op with
      | cancelIsSet site => exact calm site answer List.mem_cons_self
      | _ => exact here

namespace FakeBackend

/-- Nothing has moved: same pose, tracking, fault and Cartesian commands. -/
structure Unmoved (g g' : FakeBackend K) : Prop where
  pose : g'.pose = g.pose
  alpha : g'.alpha = g.alpha
  fault : g'.fault = g.fault
  log : g'.cartesianLog = g.cartesianLog

structure Same (g g' : FakeBackend K) : Prop extends Unmoved g g' where
  mode : g'.mode = g.mode

theorem Unmoved.trans {g g' g'' : FakeBackend K} (first : g.Unmoved g') (next : g'.Unmoved g'') :
    g.Unmoved g'' where
  pose := next.pose.trans first.pose
  alpha := next.alpha.trans first.alpha
  fault := next.fault.trans first.fault
  log := next.log.trans first.log

theorem Same.refl (g : FakeBackend K) : g.Same g := ⟨⟨rfl, rfl, rfl, rfl⟩, rfl⟩

theorem Same.trans {g g' g'' : FakeBackend K} (first : g.Same g') (next : g'.Same g'') :
    g.Same g'' where
  toUnmoved := first.toUnmoved.trans next.toUnmoved
  mode := next.mode.trans first.mode

theorem same_of_steady {op : Op K} (steady : op.IsSteady) (g : FakeBackend K)
    (answer : Op.Resp op) : g.Same (g.after ⟨op, answer⟩) := by
  cases op with
  | write call =>
      cases call with
      | moveGripper cmd => exact ⟨⟨rfl, rfl, rfl, rfl⟩, rfl⟩
      | setContactWrenchLimit wrench => exact ⟨⟨rfl, rfl, rfl, rfl⟩, rfl⟩
      | _ => exact absurd steady id
  | _ => exact .refl g

theorem serve_streamCartesian {g : FakeBackend K} (cartesian : g.mode.isCartesian = true)
    (pose : Pose K) (wrench : Option (Wrench K)) :
    g.serve (.streamCartesian pose wrench) = (.ok (), g.followed pose) := by
  unfold serve streamCartesian
  exact if_pos cartesian

end FakeBackend

end FlexivControl
