/-
The delta-action contract of the learning side: the Gymnasium environment and the recorder.

Both take seven numbers, clip them to the unit box and scale them to one servo call. The robot
is whatever serves the calls, and the reward is the caller's.
-/

import FlexivControl.Robot.Facade
import FlexivControl.Teleop.SpaceMouse
import FlexivControl.Wire.Codec
import FlexivControl.Library.Raising

namespace FlexivControl

open Script

variable {K : Type} [Scalar K]

def GripperCommand.fromNormalized (opening : K) (span : K := Scalar.ofRat (8 / 100))
    (minWidth : K := 0) (force : K := Scalar.ofNat 20) (velocity : K := Scalar.ofRat (1 / 10)) :
    GripperCommand K where
  width := minWidth + Scalar.clip opening 0 1 * span
  force := force
  velocity := velocity

/-- Open at `1`, closed at `-1`, and a grasp below zero. -/
def GripperCommand.fromSignedAction (action : K) (span : K := Scalar.ofRat (8 / 100))
    (minWidth : K := 0) (force : K := Scalar.ofNat 20) (velocity : K := Scalar.ofRat (1 / 10)) :
    GripperCommand K :=
  let a := Scalar.clip action (-1) 1
  { fromNormalized ((a + 1) / Scalar.ofNat 2) span minWidth force velocity with
    grasp := decide (a < 0) }

def TeleopAction.ofList (action : List K) : Except Exc (TeleopAction K) :=
  match action with
  | [dx, dy, dz, drx, dry, drz, gripper] => .ok ⟨⟨dx, dy, dz⟩, ⟨drx, dry, drz⟩, gripper⟩
  | action => .error ⟨.valueError,
      "cannot reshape array of size " ++ toString action.length ++ " into shape (7,)"⟩

def TeleopAction.toList (a : TeleopAction K) : List K :=
  [a.linear.x, a.linear.y, a.linear.z, a.angular.x, a.angular.y, a.angular.z, a.gripper]

def TeleopAction.clip (a : TeleopAction K) : TeleopAction K where
  linear := SpaceMouseTeleop.clipUnit a.linear
  angular := SpaceMouseTeleop.clipUnit a.angular
  gripper := Scalar.clip a.gripper (-1) 1

structure ActionScales (K : Type) where
  posScale : K
  rotScale : K
  gripperOpenWidth : K
  gripperForce : K

structure ServoCall (K : Type) [Scalar K] where
  translation : Vec3 K
  rotation : Vec3 K
  duration : K
  gripper : GripperCommand K

def ActionScales.scaled (scales : ActionScales K) (duration : K) (a : TeleopAction K) :
    ServoCall K where
  translation := a.linear * scales.posScale
  rotation := a.angular * scales.rotScale
  duration := duration
  gripper := .fromSignedAction a.gripper scales.gripperOpenWidth 0 scales.gripperForce

inductive EnvOp (K : Type) [Scalar K] where
  | servoCartesianDelta (call : ServoCall K)
  | getState
  | rewardFn (obs action : List K)

abbrev EnvOp.Answer : EnvOp K → Type
  | .servoCartesianDelta _ => ExecutionResult K
  | .getState => RobotState K
  | .rewardFn _ _ => K × Bool × Log K

abbrev envEffects (K : Type) [Scalar K] : Signature := .raising (EnvOp K) EnvOp.Answer Exc

abbrev EnvM (K : Type) [Scalar K] (α : Type) := Script (envEffects K) Int Exc α

def EnvM.attempt {α : Type} (result : Except Exc α) : EnvM K α :=
  match result with
  | .ok a => pure a
  | .error e => throw e

abbrev EnvM.ask (op : EnvOp K) : EnvM K op.Answer := Script.request op

/-! ### The environment -/

structure FlexivRealEnv (K : Type) [Scalar K] where
  controlHz : K := Scalar.ofNat 20
  actionHorizon : Int := 1
  maxEpisodeSteps : Int := 200
  posScale : K := Scalar.ofRat (5 / 100)
  rotScale : K := Scalar.ofRat (20 / 100)
  gripperOpenWidth : K := Scalar.ofRat (8 / 100)
  gripperForce : K := Scalar.ofNat 20
  rewarded : Bool := false

structure StepOutcome (K : Type) [Scalar K] where
  obs : List K
  reward : K
  terminated : Bool
  truncated : Bool
  info : Log K

namespace FlexivRealEnv

def stepDuration (env : FlexivRealEnv K) : K := Scalar.ofInt env.actionHorizon / env.controlHz

def scales (env : FlexivRealEnv K) : ActionScales K :=
  ⟨env.posScale, env.rotScale, env.gripperOpenWidth, env.gripperForce⟩

def scaleAction (env : FlexivRealEnv K) (action : List K) : Except Exc (ServoCall K) := do
  let a ← TeleopAction.ofList action
  pure (env.scales.scaled env.stepDuration a.clip)

/-- `single` is the rounding to `float32`. -/
def observation (single : K → K) (s : RobotState K) : List K :=
  (s.q ++ s.dq ++ poseList s.tcpPose ++ wrenchList s.wrench ++ [s.gripperWidth]).map single

/-- `{...info, **extra}`: what the reward adds wins. -/
def info (result : ExecutionResult K) (extra : Log K) : Log K :=
  (({ result with log :=
    [("execution_success", .flag result.success), ("clipped", .flag result.clipped),
      ("stop_reason", .text result.stopReason.value),
      ("path_tracking_error", .number result.pathTrackingError),
      ("max_wrench", .number result.maxWrench)] } : ExecutionResult K).update extra).log

def judged (env : FlexivRealEnv K) (obs action : List K) : EnvM K (K × Bool × Log K) :=
  if env.rewarded then EnvM.ask (.rewardFn obs action) else pure (0, false, [])

/-- A step is counted before its action is looked at. -/
def step (env : FlexivRealEnv K) (single : K → K) (action : List K) :
    EnvM K (StepOutcome K) := do
  modify (· + 1)
  let call ← EnvM.attempt (env.scaleAction action)
  let result ← EnvM.ask (.servoCartesianDelta call)
  let state ← EnvM.ask .getState
  let obs := observation single state
  let (reward, terminated, extra) ← env.judged obs action
  let elapsed ← get
  -- a safety stop ends the episode
  pure { obs, reward
         terminated := terminated || !result.success
         truncated := decide (env.maxEpisodeSteps ≤ elapsed)
         info := info result extra }

def steps (env : FlexivRealEnv K) (single : K → K) :
    List (List K) → EnvM K (List (StepOutcome K))
  | [] => pure []
  | action :: rest => do
      let outcome ← env.step single action
      let outcomes ← env.steps single rest
      pure (outcome :: outcomes)

end FlexivRealEnv

/-! ### The recorder -/

structure LeRobotFlexivAdapter (K : Type) [Scalar K] where
  controlHz : K := Scalar.ofNat 20
  posScale : K := Scalar.ofRat (5 / 100)
  rotScale : K := Scalar.ofRat (20 / 100)
  gripperOpenWidth : K := Scalar.ofRat (8 / 100)

abbrev ActionFrame (K : Type) := List (String × K)

namespace LeRobotFlexivAdapter

def actionKeys : List String := ["dx", "dy", "dz", "drx", "dry", "drz", "gripper"]

def scales (adapter : LeRobotFlexivAdapter K) : ActionScales K :=
  ⟨adapter.posScale, adapter.rotScale, adapter.gripperOpenWidth, Scalar.ofNat 20⟩

/-- `action[k] for k in keys`; a missing key raises. -/
def lookUp (frame : ActionFrame K) (key : String) : Except Exc K :=
  match frame.lookup key with
  | some value => .ok value
  | none => .error ⟨.other "KeyError", "'" ++ key ++ "'"⟩

def frameOf (a : TeleopAction K) : ActionFrame K := actionKeys.zip a.toList

/-- What an array and what a frame come to. -/
def send (adapter : LeRobotFlexivAdapter K) (a : TeleopAction K) : EnvM K (ActionFrame K) := do
  let _ ← EnvM.ask (.servoCartesianDelta (adapter.scales.scaled (1 / adapter.controlHz) a.clip))
  pure (frameOf a.clip)

def sendAction (adapter : LeRobotFlexivAdapter K) (action : List K) : EnvM K (ActionFrame K) := do
  adapter.send (← EnvM.attempt (TeleopAction.ofList action))

def sendFrame (adapter : LeRobotFlexivAdapter K) (frame : ActionFrame K) :
    EnvM K (ActionFrame K) := do
  let action ← EnvM.attempt (actionKeys.mapM (lookUp frame))
  adapter.send (← EnvM.attempt (TeleopAction.ofList action))

def record (adapter : LeRobotFlexivAdapter K) : List (List K) → EnvM K (List (ActionFrame K))
  | [] => pure []
  | action :: rest => do
      let frame ← adapter.sendAction action
      let frames ← adapter.record rest
      pure (frame :: frames)

def replay (adapter : LeRobotFlexivAdapter K) :
    List (ActionFrame K) → EnvM K (List (ActionFrame K))
  | [] => pure []
  | frame :: rest => do
      let sent ← adapter.sendFrame frame
      let frames ← adapter.replay rest
      pure (sent :: frames)

end LeRobotFlexivAdapter

def EnvOp.isServo : EnvOp K → Bool
  | .servoCartesianDelta _ => true
  | .getState => false
  | .rewardFn _ _ => false

/-- What a run has asked the robot to do. -/
def servoCalls (calls : List (Call (envEffects K))) : List (Call (envEffects K)) :=
  calls.filter (·.op.isServo)

/-- The environment scales what it is given as the adapter does, one control step at a time. -/
structure LeRobotFlexivAdapter.Matches (adapter : LeRobotFlexivAdapter K)
    (env : FlexivRealEnv K) : Prop where
  scales : env.scales = adapter.scales
  duration : env.stepDuration = 1 / adapter.controlHz

section Recording

open LeRobotFlexivAdapter

@[simp] theorem servoCalls_append (xs ys : List (Call (envEffects K))) :
    servoCalls (xs ++ ys) = servoCalls xs ++ servoCalls ys :=
  List.filter_append xs ys

theorem trace_attempt {α : Type} {result : Except Exc α} {memory memory' : Int}
    {calls : List (Call (envEffects K))} {out : Except Exc α}
    (ran : Trace ((EnvM.attempt result : EnvM K α) memory) calls (.done (out, memory'))) :
    calls = [] ∧ out = result ∧ memory' = memory := by
  cases result with
  | ok a =>
      obtain ⟨none, same⟩ := ran.of_done
      cases same
      exact ⟨none, rfl, rfl⟩
  | error e =>
      obtain ⟨none, same⟩ := ran.of_done
      cases same
      exact ⟨none, rfl, rfl⟩

@[simp] theorem ofList_toList {K : Type} (a : TeleopAction K) :
    TeleopAction.ofList a.toList = .ok a := rfl

theorem lookUp_frameOf {K : Type} (a : TeleopAction K) :
    actionKeys.mapM (lookUp (frameOf a)) = .ok a.toList := by
  rfl

theorem step_traced {env : FlexivRealEnv K} {single : K → K} {action : List K}
    {elapsed elapsed' : Int} {calls : List (Call (envEffects K))} {outcome : StepOutcome K}
    (ran : Trace (env.step single action elapsed) calls (.done (.ok outcome, elapsed'))) :
    ∃ a result, TeleopAction.ofList action = .ok a ∧ elapsed' = elapsed + 1 ∧
      servoCalls calls =
        [⟨.servoCartesianDelta (env.scales.scaled env.stepDuration a.clip), .ok result⟩] := by
  unfold FlexivRealEnv.step at ran
  obtain ⟨_, counted, xs, ys, rfl, silent, ran⟩ := trace_bind_ok ran
  obtain ⟨rfl, same⟩ := silent.of_done
  cases same
  obtain ⟨call, _, xs, ys, rfl, scaled, ran⟩ := trace_bind_ok ran
  obtain ⟨rfl, made, rfl⟩ := trace_attempt scaled
  obtain ⟨result, _, xs, ys, rfl, served, ran⟩ := trace_bind_ok ran
  obtain ⟨rfl, rfl⟩ := trace_request served
  obtain ⟨state, _, xs, ys, rfl, read, ran⟩ := trace_bind_ok ran
  obtain ⟨rfl, rfl⟩ := trace_request read
  obtain ⟨⟨reward, terminated, extra⟩, counted, xs, ys, rfl, judged, ran⟩ := trace_bind_ok ran
  obtain ⟨rfl, same⟩ := ran.of_done
  cases same
  have unserved : servoCalls xs = [] ∧ elapsed' = elapsed + 1 := by
    unfold FlexivRealEnv.judged at judged
    split at judged
    · obtain ⟨rfl, kept⟩ := trace_request judged
      exact ⟨rfl, kept⟩
    · obtain ⟨rfl, same⟩ := judged.of_done
      cases same
      exact ⟨rfl, rfl⟩
  unfold FlexivRealEnv.scaleAction at made
  cases parsed : TeleopAction.ofList action with
  | error e =>
      rw [parsed] at made
      cases made
  | ok a =>
      rw [parsed] at made
      cases made
      refine ⟨a, result, rfl, unserved.2, ?_⟩
      rw [List.append_nil, servoCalls_append, servoCalls_append, servoCalls_append,
        servoCalls_append, unserved.1]
      rfl

theorem sendAction_of_parsed {adapter : LeRobotFlexivAdapter K} {action : List K}
    {a : TeleopAction K} (parsed : TeleopAction.ofList action = .ok a) :
    adapter.sendAction action = adapter.send a := by
  unfold sendAction
  rw [parsed]
  rfl

theorem sendFrame_frameOf (adapter : LeRobotFlexivAdapter K) (a : TeleopAction K) :
    adapter.sendFrame (frameOf a) = adapter.send a := by
  unfold sendFrame
  rw [lookUp_frameOf]
  rfl

theorem send_traced (adapter : LeRobotFlexivAdapter K) (a : TeleopAction K)
    (result : ExecutionResult K) (memory : Int) :
    Trace (adapter.send a memory)
      [⟨.servoCartesianDelta (adapter.scales.scaled (1 / adapter.controlHz) a.clip), .ok result⟩]
      (.done (.ok (frameOf a.clip), memory)) := by
  let call := adapter.scales.scaled (1 / adapter.controlHz) a.clip
  have asked : Trace ((EnvM.ask (.servoCartesianDelta call) : EnvM K (ExecutionResult K)) memory)
      [⟨.servoCartesianDelta call, .ok result⟩] (.done (.ok result, memory)) := request_traced _ _ _
  unfold LeRobotFlexivAdapter.send
  exact trace_then asked (.nil _)

theorem clip_idem (x : ℝ) :
    Scalar.clip (Scalar.clip x (-1) 1) (-1) 1 = Scalar.clip x (-1) 1 := by
  have low : (-1 : ℝ) ≤ Scalar.clip x (-1) 1 :=
    le_min (le_max_right _ _) (by norm_num)
  have high : Scalar.clip x (-1) 1 ≤ (1 : ℝ) := min_le_right _ _
  rw [Scalar.clip_real (Scalar.clip x (-1) 1), max_eq_left low, min_eq_left high]

theorem TeleopAction.clip_clip (a : TeleopAction ℝ) : a.clip.clip = a.clip := by
  simp only [TeleopAction.clip, SpaceMouseTeleop.clipUnit, clip_idem]

/-- A frame as it is recorded: every key once, in order, with a value in the unit box. -/
def IsRecorded (frame : ActionFrame ℝ) : Prop :=
  frame.map Prod.fst = actionKeys ∧ ∀ kv ∈ frame, |kv.2| ≤ 1

theorem frameOf_recorded (a : TeleopAction ℝ) : IsRecorded (frameOf a.clip) := by
  refine ⟨rfl, ?_⟩
  have bounded (x : ℝ) : |Scalar.clip x (-1) 1| ≤ 1 :=
    abs_le.mpr ⟨le_min (le_max_right _ _) (by norm_num), min_le_right _ _⟩
  intro kv member
  have values : kv.2 ∈ a.clip.toList := (List.of_mem_zip member).2
  simp only [TeleopAction.toList, TeleopAction.clip, SpaceMouseTeleop.clipUnit, List.mem_cons,
    List.not_mem_nil, or_false] at values
  rcases values with same | same | same | same | same | same | same <;>
    · rw [same]
      exact bounded _

/-- An episode of the environment, driven by whatever policy against whatever robot, asks of
it what the adapter asks when it is sent the same actions, and again when it is sent the
frames recorded of them. -/
theorem episode_records_and_replays {env : FlexivRealEnv ℝ} {adapter : LeRobotFlexivAdapter ℝ}
    (same : adapter.Matches env) (single : ℝ → ℝ) (actions : List (List ℝ)) :
    ∀ {elapsed elapsed' : Int} {calls : List (Call (envEffects ℝ))}
      {outcomes : List (StepOutcome ℝ)},
      Trace (env.steps single actions elapsed) calls (.done (.ok outcomes, elapsed')) →
      outcomes.length = actions.length ∧ elapsed' = elapsed + actions.length ∧
        ∃ frames, (∀ frame ∈ frames, IsRecorded frame) ∧ ∀ memory,
          Trace (adapter.record actions memory) (servoCalls calls) (.done (.ok frames, memory)) ∧
          Trace (adapter.replay frames memory) (servoCalls calls) (.done (.ok frames, memory)) := by
  induction actions with
  | nil =>
      intro elapsed elapsed' calls outcomes ran
      obtain ⟨none, ended⟩ := ran.of_done
      cases ended
      rw [none]
      refine ⟨rfl, (Int.add_zero _).symm, [], ?_, fun memory => ⟨.nil _, .nil _⟩⟩
      intro frame impossible
      cases impossible
  | cons action rest ih =>
      intro elapsed elapsed' calls outcomes ran
      unfold FlexivRealEnv.steps at ran
      obtain ⟨outcome, counted, xs, ys, split, stepped, ran⟩ := trace_bind_ok ran
      obtain ⟨later, last, ys, zs, splitRest, ran, ended⟩ := trace_bind_ok ran
      obtain ⟨none, ended⟩ := ended.of_done
      cases ended
      obtain ⟨a, result, parsed, increased, asked⟩ := step_traced stepped
      obtain ⟨many, counts, frames, recorded, traced⟩ := ih ran
      have served : servoCalls calls = servoCalls xs ++ servoCalls ys := by
        rw [split, splitRest, none, List.append_nil, servoCalls_append]
      have sent (memory : Int) : Trace (adapter.send a memory) (servoCalls xs)
          (.done (.ok (frameOf a.clip), memory)) := by
        rw [asked, same.scales, same.duration]
        exact send_traced adapter a result memory
      have resent : adapter.sendFrame (frameOf a.clip) = adapter.send a := by
        rw [sendFrame_frameOf]
        unfold LeRobotFlexivAdapter.send
        rw [TeleopAction.clip_clip]
      refine ⟨congrArg (· + 1) many, ?_, frameOf a.clip :: frames, ?_, ?_⟩
      · rw [counts, increased, List.length_cons]
        omega
      · intro frame member
        rcases List.mem_cons.mp member with first | later
        · rw [first]
          exact frameOf_recorded a
        · exact recorded frame later
      · intro memory
        obtain ⟨records, replays⟩ := traced memory
        rw [served]
        unfold LeRobotFlexivAdapter.record LeRobotFlexivAdapter.replay
        rw [sendAction_of_parsed parsed, resent]
        have goesOn (p : EnvM ℝ (List (ActionFrame ℝ)))
            (ran : Trace (p memory) (servoCalls ys) (.done (.ok frames, memory))) :
            Trace ((do
              let frame ← adapter.send a
              let frames ← p
              pure (frame :: frames) : EnvM ℝ (List (ActionFrame ℝ))) memory)
              (servoCalls xs ++ servoCalls ys)
              (.done (.ok (frameOf a.clip :: frames), memory)) := by
          have tail := trace_then (f := fun frames => (pure (frameOf a.clip :: frames) :
            EnvM ℝ (List (ActionFrame ℝ)))) ran (.nil _)
          rw [List.append_nil] at tail
          exact trace_then (sent memory) tail
        exact ⟨goesOn _ records, goesOn _ replays⟩

theorem defaults_match :
    LeRobotFlexivAdapter.Matches ({} : LeRobotFlexivAdapter ℝ) ({} : FlexivRealEnv ℝ) where
  scales := rfl
  duration := by
    simp only [FlexivRealEnv.stepDuration, Scalar.ofInt_real, Int.cast_one]

def reachAction : List ℝ := [2, 0, 0, 0, 0, 0, -1]

theorem episode_records_and_replays_reach : ∃ calls frames, (servoCalls calls).length = 1 ∧
    Trace (({} : LeRobotFlexivAdapter ℝ).record [reachAction] 0) (servoCalls calls)
        (.done (.ok frames, 0)) ∧
      Trace (({} : LeRobotFlexivAdapter ℝ).replay frames 0) (servoCalls calls)
        (.done (.ok frames, 0)) := by
  let env : FlexivRealEnv ℝ := {}
  let action : TeleopAction ℝ := ⟨⟨2, 0, 0⟩, ⟨0, 0, 0⟩, -1⟩
  let calls : List (Call (envEffects ℝ)) :=
    [⟨.servoCartesianDelta (env.scales.scaled env.stepDuration action.clip), .ok {}⟩,
      ⟨.getState, .ok { stamp := 0 }⟩]
  have ran : ∃ outcomes, Trace (env.steps id [reachAction] 0) calls (.done (.ok outcomes, 1)) :=
    ⟨_, .cons (.cons (.nil _))⟩
  obtain ⟨outcomes, ran⟩ := ran
  obtain ⟨_, _, frames, _, traced⟩ :=
    episode_records_and_replays defaults_match id [reachAction] ran
  exact ⟨calls, frames, rfl, traced 0⟩

end Recording

end FlexivControl
