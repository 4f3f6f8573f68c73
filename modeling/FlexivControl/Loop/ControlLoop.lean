/-
The always-on reactive control loop.

One thread streams the latest published target at a fixed rate and holds the
measured position when commands go stale. Other threads only publish into a
small buffer under a lock of its own. A tick is one pass of the thread; its
input records what the backend and the clocks answer on that pass and what other
threads publish in the gaps between the pass's own locked sections.
-/

import FlexivControl.Robot.Facade

namespace FlexivControl

variable {K : Type} [Scalar K]

structure LoopStats (K : Type) [Scalar K] where
  periodMs : K := 0
  jitterUs : K := 0
  missedCycles : Nat := 0
  commandAgeMs : K := 0
  lastClipped : Bool := false
  lastStatus : SafetyStatus := .ok
  lastStopReason : StopReason := .none

/-- The loop object; its filter is the robot's own. -/
structure ReactiveServoLoop (K : Type) [Scalar K] where
  robot : Robot K
  hz : K
  dt : K
  cartesian : Bool := true
  targetPose : Option (Pose K) := none
  targetQ : Option (List K) := none
  targetGripper : Option (GripperCommand K) := none
  cmdStamp : K := 0
  chunkIter : Option (List (CartesianSetpoint K)) := none
  running : Bool := false
  latestState : Option (RobotState K) := none
  stats : LoopStats K := {}
  nextTick : K := 0
  prevTick : K := 0

namespace ReactiveServoLoop

def init (robot : Robot K) (controlHz : Option K := none) : ReactiveServoLoop K :=
  let hz := match controlHz with
    | none => robot.controlHz
    | some hz => if 0 < hz ∨ hz < 0 then hz else robot.controlHz
  { robot := robot, hz := hz, dt := 1 / hz }

abbrev filter (loop : ReactiveServoLoop K) : SafetyFilter K := loop.robot.filter

def withFilter (loop : ReactiveServoLoop K) (filter : SafetyFilter K) : ReactiveServoLoop K :=
  { loop with robot := { loop.robot with filter := filter } }

def report (loop : ReactiveServoLoop K) (status : SafetyStatus) (reason : StopReason) :
    ReactiveServoLoop K :=
  { loop with stats := { loop.stats with lastStatus := status, lastStopReason := reason } }

/-! ### What other threads publish -/

/-- The space changes and the chunk is dropped before the pose's shape is looked at. -/
def setCartesianTarget (loop : ReactiveServoLoop K) (pose : List K)
    (gripper : Option (GripperCommand K)) (now : K) : Except Exc Unit × ReactiveServoLoop K :=
  let loop := { loop with cartesian := true, chunkIter := none }
  match Pose.reshape7 pose with
  | .error e => (.error e, loop)
  | .ok pose => (.ok (), { loop with
      targetPose := some pose, targetGripper := gripper <|> loop.targetGripper, cmdStamp := now })

def setJointTarget (loop : ReactiveServoLoop K) (q : List K) (now : K) : ReactiveServoLoop K :=
  { loop with cartesian := false, chunkIter := none, targetQ := some q, cmdStamp := now }

/-- Stage a chunk against the live pose `s`; it preempts the one being streamed. -/
def enqueueChunk (loop : ReactiveServoLoop K) (chunk : CartesianChunk K) (s : RobotState K)
    (now : K) : Except Exc Unit × ReactiveServoLoop K :=
  match chunk.forExecution s.tcpPose with
  | .error e => (.error e, loop)
  | .ok c =>
      let interp : CartesianChunkInterpolator K :=
        { chunk := c, startPose := s.tcpPose, hz := loop.hz
          maxLinearSpeed := some loop.filter.p.maxLinearSpeed
          maxAngularSpeed := some loop.filter.p.maxAngularSpeed }
      (.ok (), { loop with cartesian := true, chunkIter := some interp.setpoints, cmdStamp := now })

end ReactiveServoLoop

/-- One action of another thread on the loop. -/
inductive Publication (K : Type) [Scalar K] where
  | cartesianTarget (pose : List K) (gripper : Option (GripperCommand K)) (now : K)
  | jointTarget (q : List K) (now : K)
  | enqueueChunk (chunk : CartesianChunk K) (s : RobotState K) (now : K)
  | safetyProfile (profile : SafetyProfile K)
  | halt

def Publication.apply (loop : ReactiveServoLoop K) : Publication K → ReactiveServoLoop K
  | .cartesianTarget pose gripper now => (loop.setCartesianTarget pose gripper now).2
  | .jointTarget q now => loop.setJointTarget q now
  | .enqueueChunk chunk s now => (loop.enqueueChunk chunk s now).2
  | .safetyProfile profile => { loop with robot := loop.robot.withProfile profile }
  | .halt => { loop with running := false }

def ReactiveServoLoop.absorb (loop : ReactiveServoLoop K) (published : List (Publication K)) :
    ReactiveServoLoop K :=
  published.foldl Publication.apply loop

/-! ### One pass of the thread -/

/-- What one pass is answered, in order, with the publications that fall into each gap. -/
structure TickInput (K : Type) [Scalar K] where
  state : Except Exc (RobotState K)
  stateClock : K
  beforeFetch : List (Publication K) := []
  beforeAdvance : List (Publication K) := []
  advanceClock : K
  beforeSnapshot : List (Publication K) := []
  ageClock : K
  inFault : Except Exc Bool := .ok false
  beforeWrite : List (Publication K) := []
  ack : BackendCall K → Option Exc := fun _ => none
  perfNow : K := 0
  perfSleep : K := 0
  perfOverrun : K := 0

/-- The loop as it stands within a pass, with the backend calls made so far. -/
structure Pass (K : Type) [Scalar K] where
  loop : ReactiveServoLoop K
  calls : List (BackendCall K) := []

abbrev LoopM (K : Type) [Scalar K] (α : Type) := ExceptT Exc (StateM (Pass K)) α

def command (input : TickInput K) (call : BackendCall K) : LoopM K Unit := fun pass =>
  let pass := { pass with calls := pass.calls ++ [call] }
  match input.ack call with
  | none => (.ok (), pass)
  | some e => (.error e, pass)

def update (f : ReactiveServoLoop K → ReactiveServoLoop K) : LoopM K Unit := fun pass =>
  (.ok (), { pass with loop := f pass.loop })

def protectiveStop (input : TickInput K) (status : SafetyStatus) (reason : StopReason) :
    LoopM K Unit := do
  command input .stop
  update fun loop => loop.report status reason

/-- Backends require a matching motion mode before streaming. -/
def ensureStreamMode (input : TickInput K) (state : RobotState K) (robot : Robot K)
    (cartesian : Bool) : LoopM K Unit :=
  if cartesian then
    if state.controlMode.isCartesian then pure () else command input robot.cartesianImpedance
  else
    if state.controlMode.isCartesian ∨ state.controlMode = .idle then
      command input jointImpedanceCall
    else pure ()

def holdPosition (input : TickInput K) (state : RobotState K) (robot : Robot K)
    (cartesian : Bool) : LoopM K Unit := do
  update fun loop => { loop with stats := { loop.stats with lastStatus := .holding } }
  update fun loop => loop.withFilter (loop.filter.reset (some state))
  ensureStreamMode input state robot cartesian
  if cartesian then command input (.streamCartesian state.tcpPose none)
  else command input (.streamJoint state.q)

def ReactiveServoLoop.reportResult (loop : ReactiveServoLoop K) (sr : SafetyResult K) :
    ReactiveServoLoop K :=
  { loop with stats := { loop.stats with
    lastClipped := sr.clipped
    lastStatus := if sr.clipped then .clipped else .ok
    lastStopReason := sr.primaryClipReason } }

def reportStreamed (sr : SafetyResult K) : LoopM K Unit :=
  update fun loop => loop.reportResult sr

def sendGripper (input : TickInput K) (gripper : Option (GripperCommand K)) : LoopM K Unit :=
  match gripper with
  | none => pure ()
  | some cmd => do
      command input (.moveGripper cmd)
      update fun loop => { loop with targetGripper := none }

def liveCartesian (input : TickInput K) (state : RobotState K) (robot : Robot K) (target : Pose K)
    (gripper : Option (GripperCommand K)) : LoopM K Unit := do
  let (sr, filter) := robot.filter.filterCartesian target state
  update fun loop => loop.withFilter filter
  match sr.ok, sr.pose with
  | true, some pose => do
      ensureStreamMode input state robot true
      command input (.streamCartesian pose none)
      sendGripper input gripper
      reportStreamed sr
  | _, _ => protectiveStop input .stopped sr.reason

def liveJoint (input : TickInput K) (state : RobotState K) (robot : Robot K) (target : List K) :
    LoopM K Unit := do
  match robot.filter.filterJoint target state with
  | .error e => throw e
  | .ok (sr, filter) => do
      update fun loop => loop.withFilter filter
      match sr.ok, sr.q with
      | true, some q => do
          ensureStreamMode input state robot false
          command input (.streamJoint q)
          reportStreamed sr
      | _, _ => protectiveStop input .stopped sr.reason

structure Snapshot (K : Type) [Scalar K] where
  state : RobotState K
  stateAgeMs : K
  cartesian : Bool
  targetPose : Option (Pose K)
  targetQ : Option (List K)
  gripper : Option (GripperCommand K)
  age : K
  faulted : Bool

def Snapshot.stale (snap : Snapshot K) (p : SafetyProfile K) : Bool :=
  decide (p.commandTimeoutMs / Scalar.ofNat 1000 < snap.age)

def Snapshot.heldTooLong (snap : Snapshot K) (p : SafetyProfile K) : Bool :=
  match p.holdTimeoutMs with
  | none => false
  | some timeout => decide (timeout / Scalar.ofNat 1000 < snap.age)

def writeSection (input : TickInput K) (snap : Snapshot K) (robot : Robot K) : LoopM K Unit :=
  let p := robot.filter.p
  if snap.faulted then protectiveStop input .fault .backendFault
  else if !(robot.filter.checkStateAge snap.stateAgeMs).ok then
    protectiveStop input .stopped .staleState
  else if snap.stale p && p.stopOnStaleCommand then
    if snap.heldTooLong p then protectiveStop input .stopped .staleCommand
    else holdPosition input snap.state robot snap.cartesian
  else
    match snap.cartesian, snap.targetPose, snap.targetQ with
    | true, some pose, _ => liveCartesian input snap.state robot pose snap.gripper
    | false, _, some q => liveJoint input snap.state robot q
    | _, _, _ => pure ()

inductive ChunkNext (K : Type) [Scalar K] where
  | noChunk
  | setpoint (sp : CartesianSetpoint K)
  | exhausted

def ReactiveServoLoop.fetchChunk (loop : ReactiveServoLoop K) :
    ChunkNext K × ReactiveServoLoop K :=
  match loop.chunkIter with
  | none => (.noChunk, loop)
  | some [] => (.exhausted, loop)
  | some (sp :: rest) => (.setpoint sp, { loop with chunkIter := some rest })

def ReactiveServoLoop.advance (loop : ReactiveServoLoop K) (next : ChunkNext K) (now : K) :
    ReactiveServoLoop K :=
  match next with
  | .noChunk => loop
  | .setpoint sp => { loop with
      cartesian := true
      targetPose := some sp.pose
      targetGripper := sp.gripper <|> loop.targetGripper
      cmdStamp := now }
  | .exhausted => { loop with chunkIter := none }

/-- The first half of a pass: read, advance an enqueued chunk, take the snapshot. -/
def ReactiveServoLoop.prepare (loop : ReactiveServoLoop K) (input : TickInput K)
    (state : RobotState K) : ReactiveServoLoop K :=
  let loop := { loop with latestState := some state }.absorb input.beforeFetch
  let (next, loop) := loop.fetchChunk
  let loop := (loop.absorb input.beforeAdvance).advance next input.advanceClock
  loop.absorb input.beforeSnapshot

def ReactiveServoLoop.snapshot (loop : ReactiveServoLoop K) (input : TickInput K)
    (state : RobotState K) (faulted : Bool) : Snapshot K where
  state := state
  stateAgeMs := (input.stateClock - state.stamp) * Scalar.ofNat 1000
  cartesian := loop.cartesian
  targetPose := loop.targetPose
  targetQ := loop.targetQ
  gripper := loop.targetGripper
  age := input.ageClock - loop.cmdStamp
  faulted := faulted

/-- Period, jitter and overrun bookkeeping at the end of a pass. -/
def ReactiveServoLoop.diagnose (loop : ReactiveServoLoop K) (input : TickInput K) :
    ReactiveServoLoop K :=
  let period := input.perfNow - loop.prevTick
  let stats := { loop.stats with
    periodMs := period * Scalar.ofNat 1000
    jitterUs := Scalar.abs (period - loop.dt) * Scalar.ofNat 1000000 }
  let nextTick := loop.nextTick + loop.dt
  if 0 < nextTick - input.perfSleep then
    { loop with stats := stats, prevTick := input.perfNow, nextTick := nextTick }
  else
    { loop with
      stats := { stats with missedCycles := stats.missedCycles + 1 }
      prevTick := input.perfNow
      nextTick := input.perfOverrun }

/-- How a pass ended: the loop after it, its backend calls, what it raised. -/
structure TickResult (K : Type) [Scalar K] where
  loop : ReactiveServoLoop K
  calls : List (BackendCall K)
  raised : Option Exc

/-- A raising pass stops the backend as best it can and ends the thread. -/
def ReactiveServoLoop.crash (pass : Pass K) (e : Exc) : TickResult K where
  loop := { pass.loop.report .fault .backendFault with running := false }
  calls := pass.calls ++ [.stop]
  raised := some e

/-- Up to the write section: the snapshot, and the loop as the section finds it. -/
def ReactiveServoLoop.arrive (loop : ReactiveServoLoop K) (input : TickInput K) :
    Except Exc (Snapshot K) × ReactiveServoLoop K :=
  match input.state with
  | .error e => (.error e, loop)
  | .ok state =>
      let loop := loop.prepare input state
      match input.inFault with
      | .error e => (.error e, loop)
      | .ok faulted =>
          let snap := loop.snapshot input state faulted
          let stats := { loop.stats with commandAgeMs := snap.age * Scalar.ofNat 1000 }
          (.ok snap, { loop with stats := stats }.absorb input.beforeWrite)

def ReactiveServoLoop.tick (loop : ReactiveServoLoop K) (input : TickInput K) : TickResult K :=
  match loop.arrive input with
  | (.error e, loop) => crash { loop := loop } e
  | (.ok snap, loop) =>
      match writeSection input snap loop.robot { loop := loop } with
      | (.error e, pass) => crash pass e
      | (.ok _, pass) => { loop := pass.loop.diagnose input, calls := pass.calls, raised := none }

/-- One pass of a run: the loop it starts from and its input. -/
structure Tick (K : Type) [Scalar K] where
  before : ReactiveServoLoop K
  input : TickInput K

def Tick.result (t : Tick K) : TickResult K := t.before.tick t.input

/-- The thread's passes, one input each, for as long as it runs. -/
def ReactiveServoLoop.runInner (loop : ReactiveServoLoop K) : List (TickInput K) → List (Tick K)
  | [] => []
  | input :: rest =>
      if loop.running then ⟨loop, input⟩ :: (loop.tick input).loop.runInner rest else []

/-- Seed the targets with the pose in `state`, which is read once a Cartesian mode is on. -/
def ReactiveServoLoop.seed (loop : ReactiveServoLoop K) (state : RobotState K) (now perf : K) :
    ReactiveServoLoop K :=
  { loop.withFilter (loop.filter.reset (some state)) with
    targetPose := some state.tcpPose
    targetQ := some state.q
    cmdStamp := now
    running := true
    nextTick := perf
    prevTick := perf }

/-- `start()`: the mode call it may make, and the seeded loop. Already running, it
does nothing. -/
def ReactiveServoLoop.start (loop : ReactiveServoLoop K) (first second : RobotState K)
    (now perf : K) : List (BackendCall K) × ReactiveServoLoop K :=
  if loop.running then ([], loop)
  else if first.controlMode.isCartesian then ([], loop.seed first now perf)
  else ([loop.robot.cartesianImpedance], loop.seed second now perf)

end FlexivControl
