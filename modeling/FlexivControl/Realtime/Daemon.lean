/-
The real-time daemon: its arguments, the setpoint mailbox, the clamp of its safety box
and the task its scheduler runs.

The network thread and the task meet only at the mailbox mutex, the time stamp and the
stop flag, so one run is a sequence of the steps between these.
-/

import FlexivControl.Core.Types

namespace FlexivControl

inductive ArgError where
  | usage
  | invalidArgument
  | outOfRange
  deriving DecidableEq, Repr

def isSpace (c : Char) : Bool :=
  c = ' ' || (9 ≤ c.toNat && c.toNat ≤ 13)

def digitsValue (digits : List Char) : Nat :=
  digits.foldl (fun value c => 10 * value + (c.toNat - '0'.toNat)) 0

def splitSign : List Char → Int × List Char
  | '-' :: rest => (-1, rest)
  | '+' :: rest => (1, rest)
  | rest => (1, rest)

/-- `std::stoi`: leading space, a sign and the digits; what follows them is ignored. -/
def stoi (text : String) : Except ArgError Int :=
  let (sign, rest) := splitSign (text.toList.dropWhile isSpace)
  match rest.takeWhile Char.isDigit with
  | [] => .error .invalidArgument
  | digits =>
      let value := sign * (digitsValue digits : Int)
      if -2 ^ 31 ≤ value ∧ value < 2 ^ 31 then .ok value else .error .outOfRange

structure DaemonConfig where
  robotSn : String
  port : Int := 8766
  freq : Int := 1000
  deriving DecidableEq, Repr

/-- The arguments after the serial, two at a time; a last one without a partner is left. -/
def DaemonConfig.readPairs (config : DaemonConfig) : List String → Except ArgError DaemonConfig
  | key :: value :: rest =>
      if key = "--port" then
        match stoi value with
        | .error e => .error e
        | .ok port => { config with port := port }.readPairs rest
      else if key = "--freq" then
        match stoi value with
        | .error e => .error e
        | .ok freq => { config with freq := freq }.readPairs rest
      else config.readPairs rest
  | _ => .ok config

/-- What `main` makes of its arguments, the program's name left out. -/
def parseArgs : List String → Except ArgError DaemonConfig
  | [] => .error .usage
  | robotSn :: rest => { robotSn := robotSn : DaemonConfig }.readPairs rest

structure SetPoint (K : Type) [Scalar K] where
  pose : Pose K := ⟨⟨Scalar.ofRat (45 / 100), 0, Scalar.ofRat (30 / 100)⟩, 1⟩
  wrench : Wrench K := fun _ => 0
  gripperWidth : K := -1
  gripperForce : K := Scalar.ofNat 20

structure SetPointMailbox (K : Type) [Scalar K] where
  held : Bool := false
  buf : Fin 2 → SetPoint K := fun _ => {}
  front : Fin 2 := 0
  stampNs : Nat := 0

structure SafetyBox (K : Type) [Scalar K] where
  xmin : K := Scalar.ofRat (25 / 100)
  xmax : K := Scalar.ofRat (75 / 100)
  ymin : K := Scalar.ofRat (-45 / 100)
  ymax : K := Scalar.ofRat (45 / 100)
  zmin : K := Scalar.ofRat (6 / 100)
  zmax : K := Scalar.ofRat (70 / 100)
  maxLinSpeed : K := Scalar.ofRat (25 / 100)

variable {K : Type} [Scalar K]

/-- The box `main` builds. -/
def safety : SafetyBox K := {}

/-- The part of `Publish` before the stamp: the mutex is taken, the back buffer written
and the index flipped. -/
def SetPointMailbox.publish (mailbox : SetPointMailbox K) (sp : SetPoint K) :
    SetPointMailbox K :=
  { mailbox with
    held := true
    buf := Function.update mailbox.buf (1 - mailbox.front) sp
    front := 1 - mailbox.front }

/-- The end of `Publish`. -/
def SetPointMailbox.stamp (mailbox : SetPointMailbox K) (nowNs : Nat) : SetPointMailbox K :=
  { mailbox with held := false, stampNs := nowNs }

def SetPointMailbox.tryRead (mailbox : SetPointMailbox K) (spurious : Bool) :
    Option (SetPoint K) :=
  if mailbox.held || spurious then none else some (mailbox.buf mailbox.front)

/-- `AgeMs`, whose difference is taken in 64 bits. -/
def SetPointMailbox.ageMs (mailbox : SetPointMailbox K) (nowNs : Nat) : K :=
  Scalar.ofNat ((nowNs + 2 ^ 64 - mailbox.stampNs) % 2 ^ 64) / Scalar.ofNat 1000000

/-- The coordinates pulled onto the box, `std::min(std::max(v, lo), hi)` each. -/
def SafetyBox.boxed (box : SafetyBox K) (pos : Vec3 K) : Vec3 K where
  x := Scalar.lesser (Scalar.greater pos.x box.xmin) box.xmax
  y := Scalar.lesser (Scalar.greater pos.y box.ymin) box.ymax
  z := Scalar.lesser (Scalar.greater pos.z box.zmin) box.zmax

/-- `ClampInto`: into the box, then no farther than `cap` from `prev`. -/
def SafetyBox.clampInto (box : SafetyBox K) (pose prev : Pose K) (dt : K) : Pose K :=
  let pos := box.boxed pose.pos
  let d := pos - prev.pos
  let step := d.norm
  let cap := box.maxLinSpeed * dt
  if cap < step ∧ Scalar.ofRat (1 / 1000000000) < step then
    { pose with pos := prev.pos + d * (cap / step) }
  else { pose with pos := pos }

/-! ### The daemon -/

/-- Where the real-time side stands: `main` has not read the seed back yet, no task is
running, or the running task has read the mailbox. -/
inductive TaskPhase where
  | starting
  | waiting
  | reading
  deriving DecidableEq, Repr

structure RtCommand (K : Type) where
  pose : Pose K
  wrench : Wrench K

/-- `ticks` has one entry for each run of the task, in order: what it streamed, or
nothing once the stop flag is up. -/
structure Daemon (K : Type) [Scalar K] where
  stopping : Bool := false
  mailbox : SetPointMailbox K
  phase : TaskPhase := .starting
  current : SetPoint K := {}
  lastCmd : Pose K := ({} : SetPoint K).pose
  ticks : List (Option (RtCommand K)) := []

inductive DaemonEvent (K : Type) [Scalar K] where
  | publish (sp : SetPoint K)
  | stamp (nowNs : Nat)
  | requestStop
  | readSeed (spurious : Bool)
  | beginTick (spurious : Bool)
  | finishTick (nowNs : Nat)

/-- The mailbox is seeded with the measured pose before anything else runs. -/
def Daemon.seeded (tcpPose : Pose K) (nowNs : Nat) : Daemon K where
  mailbox := ((({} : SetPointMailbox K).publish { pose := tcpPose }).stamp nowNs)

def DaemonConfig.dt (config : DaemonConfig) : K := 1 / Scalar.ofInt config.freq

def Daemon.command (config : DaemonConfig) (daemon : Daemon K) (nowNs : Nat) : RtCommand K :=
  let stale := decide (Scalar.ofNat 100 < daemon.mailbox.ageMs nowNs)
  let target := if stale then daemon.lastCmd else daemon.current.pose
  { pose := safety.clampInto target daemon.lastCmd config.dt
    wrench := if stale then fun _ => 0 else daemon.current.wrench }

/-- The task from its age test to the end. -/
def Daemon.stream (config : DaemonConfig) (daemon : Daemon K) (nowNs : Nat) : Daemon K :=
  { daemon with
    phase := .waiting
    lastCmd := (daemon.command config nowNs).pose
    ticks := daemon.ticks ++ [some (daemon.command config nowNs)] }

/-- One step. A publisher waits while the mutex is held and the task's steps come in
turn: a step out of turn leaves everything as it is. -/
def Daemon.step (config : DaemonConfig) (daemon : Daemon K) : DaemonEvent K → Daemon K
  | .publish sp =>
      if daemon.mailbox.held then daemon
      else { daemon with mailbox := daemon.mailbox.publish sp }
  | .stamp nowNs =>
      if daemon.mailbox.held then { daemon with mailbox := daemon.mailbox.stamp nowNs }
      else daemon
  | .requestStop => { daemon with stopping := true }
  | .readSeed spurious =>
      if daemon.phase = .starting then
        let current := (daemon.mailbox.tryRead spurious).getD daemon.current
        { daemon with phase := .waiting, current := current, lastCmd := current.pose }
      else daemon
  | .beginTick spurious =>
      if daemon.phase = .waiting then
        if daemon.stopping then { daemon with ticks := daemon.ticks ++ [none] }
        else
          { daemon with
            phase := .reading
            current := (daemon.mailbox.tryRead spurious).getD daemon.current }
      else daemon
  | .finishTick nowNs =>
      if daemon.phase = .reading then daemon.stream config nowNs else daemon

def Daemon.run (config : DaemonConfig) (daemon : Daemon K) (events : List (DaemonEvent K)) :
    Daemon K :=
  events.foldl (Daemon.step config) daemon

/-- The daemon started with these arguments at a measured pose, after these steps. -/
def runDaemon (args : List String) (tcpPose : Pose K) (nowNs : Nat)
    (events : List (DaemonEvent K)) : Except ArgError (Daemon K) :=
  match parseArgs args with
  | .error e => .error e
  | .ok config => .ok ((Daemon.seeded tcpPose nowNs).run config events)

theorem runDaemon_of_parse {args : List String} {config : DaemonConfig}
    (parsed : parseArgs args = .ok config) (tcpPose : Pose K) (nowNs : Nat)
    (events : List (DaemonEvent K)) :
    runDaemon args tcpPose nowNs events =
      .ok ((Daemon.seeded tcpPose nowNs).run config events) := by
  unfold runDaemon
  rw [parsed]

end FlexivControl
