/-
Driving the arm with the SpaceMouse: the teleop loop.

Every round reads the device, answers it with at most one servo call, and waits for the next
deadline. The device, the robot and the clock answer as they like, and any of them may raise.
-/

import FlexivControl.Core.ActionChunk
import FlexivControl.Filter.Workspace
import FlexivControl.Library.Pacing
import FlexivControl.Library.Raising
import FlexivControl.Teleop.SpaceMouse

namespace FlexivControl

open Script

section Loop

variable {K : Type} [Scalar K]

structure TeleopServo (K : Type) [Scalar K] where
  translation : Vec3 K
  rotation : Vec3 K
  duration : K
  frame : String
  gripper : Option (GripperCommand K)

inductive TeleopOp (K : Type) [Scalar K] where
  | openSource
  | closeSource
  | read
  | acquireLease (owner : Option String)
  | startCartesianImpedance
  | getState
  | servoCartesianDelta (call : TeleopServo K)
  | time
  | perfCounter
  | sleep (seconds : K)

abbrev TeleopOp.Answer : TeleopOp K → Type
  | .read => SpaceMouseState K
  | .getState => RobotState K
  | .servoCartesianDelta _ => ExecutionResult K
  | .time | .perfCounter => K
  | .openSource | .closeSource | .acquireLease _ | .startCartesianImpedance | .sleep _ => Unit

abbrev teleopEffects (K : Type) [Scalar K] : Signature := .raising (TeleopOp K) TeleopOp.Answer Exc

abbrev TeleopM (K : Type) [Scalar K] (α : Type) :=
  Script (teleopEffects K) (SpaceMouseTeleop K) Exc α

abbrev TeleopM.ask (op : TeleopOp K) : TeleopM K op.Answer := Script.request op

/-- How the loop is set up; the scales are speeds at full deflection. -/
structure TeleopSettings (K : Type) [Scalar K] where
  publishHz : K := Scalar.ofNat 100
  posScale : K := Scalar.ofRat (6 / 100)
  rotScale : K := Scalar.ofRat (1 / 2)
  linearSigns : Vec3 K := ⟨1, 1, 1⟩
  angularSigns : Vec3 K := ⟨1, 1, 1⟩
  frame : String := "base"
  owner : String := "spacemouse"

namespace TeleopSettings

def dt (settings : TeleopSettings K) : K := 1 / settings.publishHz

def signed (v signs : Vec3 K) : Vec3 K := ⟨v.x * signs.x, v.y * signs.y, v.z * signs.z⟩

def toDelta (settings : TeleopSettings K) (teleop : SpaceMouseTeleop K)
    (st : SpaceMouseState K) : Vec3 K × Vec3 K :=
  (signed (teleop.applyDeadband st.translation) settings.linearSigns * settings.posScale *
      settings.dt,
    signed (teleop.applyDeadband st.rotation) settings.angularSigns * settings.rotScale *
      settings.dt)

def servo (settings : TeleopSettings K) (delta : Vec3 K × Vec3 K)
    (grip : Option (GripperCommand K)) : TeleopServo K :=
  ⟨delta.1, delta.2, settings.dt, settings.frame, grip⟩

def reportedWidth : TeleopM K (Option K) :=
  tryCatch (do pure (some (← TeleopM.ask .getState).gripperWidth)) fun _ => pure none

/-- The robot is asked only where the button has just gone down and nothing is known yet. -/
def widthFor (teleop : SpaceMouseTeleop K) (st : SpaceMouseState K) : TeleopM K (Option K) :=
  if st.pressed teleop.gripperButton && !teleop.prevGripperButton && teleop.gripperOpen.isNone
  then reportedWidth else pure none

def gripperFromButtons (st : SpaceMouseState K) : TeleopM K (Option (GripperCommand K)) := do
  let teleop ← get
  let width ← widthFor teleop st
  let toggled := teleop.gripperFromButtons st width
  set toggled.2
  pure toggled.1

/-- The gripper is not gated by the deadman. -/
def answer (settings : TeleopSettings K) (st : SpaceMouseState K)
    (grip : Option (GripperCommand K)) : TeleopM K Unit := do
  let teleop ← get
  if teleop.deadmanOk st then do
    let _ ← TeleopM.ask (.servoCartesianDelta (settings.servo (settings.toDelta teleop st) grip))
  else if grip.isSome then do
    let _ ← TeleopM.ask (.servoCartesianDelta (settings.servo (0, 0) grip))

/-- The rest of a tick: the next deadline, or the time if that has passed. -/
def pace (settings : TeleopSettings K) (nextTick : K) : TeleopM K K := do
  let now ← TeleopM.ask .perfCounter
  let wait := nextTick + settings.dt - now
  if 0 < wait then do
    TeleopM.ask (.sleep wait)
    pure (nextTick + settings.dt)
  else TeleopM.ask .perfCounter

def expired (duration : Option K) (tStart : K) : TeleopM K Bool :=
  match duration with
  | none => pure false
  | some duration => do
      let now ← TeleopM.ask .time
      pure (decide (duration ≤ now - tStart))

def ended (duration : Option K) (maxTicks : Option Int) (tStart : K) (ticks : Nat) :
    TeleopM K Bool := do
  let late ← expired duration tStart
  pure (late || maxTicks.any fun most => decide (most ≤ (ticks : Int)))

/-- The loop for so many rounds. The flag says whether it is still running after them. -/
def loop (settings : TeleopSettings K) (duration : Option K) (maxTicks : Option Int) (tStart : K) :
    Nat → K → Nat → TeleopM K (Nat × Bool)
  | 0, _, ticks => pure (ticks, true)
  | rounds + 1, nextTick, ticks => do
      if ← ended duration maxTicks tStart ticks then pure (ticks, false)
      else do
        let st ← TeleopM.ask .read
        let grip ← gripperFromButtons st
        settings.answer st grip
        let nextTick ← settings.pace nextTick
        settings.loop duration maxTicks tStart rounds nextTick (ticks + 1)

def lease (settings : TeleopSettings K) : TeleopM K Unit :=
  tryCatch (TeleopM.ask (.acquireLease (some settings.owner))) fun e =>
    if e.kind = .other "TypeError" then TeleopM.ask (.acquireLease none) else throw e

/-- What comes before the loop: when it began, and its first deadline. -/
def ready (settings : TeleopSettings K) : TeleopM K (K × K) := do
  TeleopM.ask .openSource
  settings.lease
  TeleopM.ask .startCartesianImpedance
  let tStart ← TeleopM.ask .time
  let nextTick ← TeleopM.ask .perfCounter
  pure (tStart, nextTick)

/-- The source is closed once the loop is left, also by an exception. -/
def run (settings : TeleopSettings K) (duration : Option K) (maxTicks : Option Int)
    (rounds : Nat) : TeleopM K (Nat × Bool) := do
  let begun ← settings.ready
  let out ← tryCatch (settings.loop duration maxTicks begun.1 rounds begun.2 0) fun e => do
    TeleopM.ask .closeSource
    throw e
  if out.2 then pure out
  else do
    TeleopM.ask .closeSource
    pure out

end TeleopSettings

/-! ### What the operator does, and what comes of it -/

/-- Nothing the loop does for the operator. -/
def TeleopOp.quiet : TeleopOp K → Bool
  | .read | .closeSource | .servoCartesianDelta _ => false
  | .openSource | .acquireLease _ | .startCartesianImpedance | .getState | .time | .perfCounter
  | .sleep _ => true

def TeleopOp.served : TeleopOp K → Option (TeleopServo K)
  | .servoCartesianDelta call => some call
  | _ => none

def reading : Call (teleopEffects K) → Option (SpaceMouseState K)
  | ⟨.read, .ok st⟩ => some st
  | _ => none

def readings (calls : List (Call (teleopEffects K))) : List (SpaceMouseState K) :=
  calls.filterMap reading

def servos (calls : List (Call (teleopEffects K))) : List (TeleopServo K) :=
  calls.filterMap fun c => c.op.served

def gripped (calls : List (Call (teleopEffects K))) : List (GripperCommand K) :=
  (servos calls).filterMap (·.gripper)

def presses (button : Nat) : Bool → List (SpaceMouseState K) → Nat
  | _, [] => 0
  | down, st :: rest =>
      (if st.pressed button && !down then 1 else 0) + presses button (st.pressed button) rest

def SpaceMouseTeleop.buttonDown (teleop : SpaceMouseTeleop K)
    (seen : List (SpaceMouseState K)) : Bool :=
  (seen.getLast?.map (·.pressed teleop.gripperButton)).getD teleop.prevGripperButton

/-- A servo call that answers the reading just made: the arm moves as the device says and only
while the deadman is held, and the gripper is commanded when its button has just gone down,
to close if it was last opened and to open if it was last closed. -/
structure Heeds (settings : TeleopSettings K) (teleop : SpaceMouseTeleop K)
    (before : List (Call (teleopEffects K))) (earlier : List (SpaceMouseState K))
    (st : SpaceMouseState K) (call : TeleopServo K) : Prop where
  read : readings before = earlier ++ [st]
  once : (servos before).length ≤ earlier.length
  moves : (call.translation, call.rotation) =
    if teleop.deadmanOk st then settings.toDelta teleop st else (0, 0)
  pressed : call.gripper.isSome = (st.pressed teleop.gripperButton && !teleop.buttonDown earlier)
  called : teleop.deadmanOk st = true ∨ call.gripper.isSome = true
  alternates : ∀ cmd ∈ call.gripper, ∀ last ∈ (gripped before).getLast?, cmd.grasp = !last.grasp

def Unclosed (calls : List (Call (teleopEffects K))) : Prop :=
  ∀ c ∈ calls, c.op ≠ TeleopOp.closeSource

/-- Nothing comes after the source is closed, and no servo call but one that heeds the
operator. -/
structure MayDrive (settings : TeleopSettings K) (teleop : SpaceMouseTeleop K)
    (before : List (Call (teleopEffects K))) (op : TeleopOp K) : Prop where
  unclosed : Unclosed before
  heeds : ∀ call, op = .servoCartesianDelta call →
    ∃ earlier st, Heeds settings teleop before earlier st call

section Operator

variable {settings : TeleopSettings K} {teleop₀ teleop teleop' : SpaceMouseTeleop K}
  {calls calls' : List (Call (teleopEffects K))} {st : SpaceMouseState K}

theorem readings_append (xs ys : List (Call (teleopEffects K))) :
    readings (xs ++ ys) = readings xs ++ readings ys := List.filterMap_append

theorem servos_append (xs ys : List (Call (teleopEffects K))) :
    servos (xs ++ ys) = servos xs ++ servos ys := List.filterMap_append

theorem gripped_append (xs ys : List (Call (teleopEffects K))) :
    gripped (xs ++ ys) = gripped xs ++ gripped ys := by
  rw [gripped, servos_append]
  exact List.filterMap_append

theorem presses_snoc (button : Nat) (seen : List (SpaceMouseState K)) (st : SpaceMouseState K) :
    ∀ down, presses button down (seen ++ [st]) = presses button down seen +
      if st.pressed button && !((seen.getLast?.map (·.pressed button)).getD down)
        then 1 else 0 := by
  induction seen with
  | nil => exact fun down => (Nat.add_comm _ _)
  | cons first rest ih =>
      intro down
      have before : ((first :: rest).getLast?.map (·.pressed button)).getD down =
          (rest.getLast?.map (·.pressed button)).getD (first.pressed button) := by
        rw [List.getLast?_cons]
        cases rest.getLast? <;> rfl
      rw [List.cons_append, presses, presses, ih, before, Nat.add_assoc]

theorem Unclosed.snoc (unclosed : Unclosed calls) {c : Call (teleopEffects K)}
    (other : c.op ≠ TeleopOp.closeSource) : Unclosed (calls ++ [c]) := by
  intro c' member
  rcases List.mem_append.mp member with earlier | now
  · exact unclosed c' earlier
  · rw [List.mem_singleton.mp now]
    exact other

structure Synced (teleop₀ teleop : SpaceMouseTeleop K) (calls : List (Call (teleopEffects K))) :
    Prop where
  deadband : teleop.deadband = teleop₀.deadband
  deadman : teleop.deadmanButton = teleop₀.deadmanButton
  button : teleop.gripperButton = teleop₀.gripperButton
  down : teleop.prevGripperButton = teleop₀.buttonDown (readings calls)
  known : ∀ cmd ∈ (gripped calls).getLast?, teleop.gripperOpen = some (!cmd.grasp)
  once : (servos calls).length ≤ (readings calls).length
  counted : (gripped calls).length =
    presses teleop₀.gripperButton teleop₀.prevGripperButton (readings calls)
  unclosed : Unclosed calls

structure Toggled (teleop : SpaceMouseTeleop K) (st : SpaceMouseState K)
    (grip : Option (GripperCommand K)) (teleop' : SpaceMouseTeleop K) : Prop where
  deadband : teleop'.deadband = teleop.deadband
  deadman : teleop'.deadmanButton = teleop.deadmanButton
  button : teleop'.gripperButton = teleop.gripperButton
  down : teleop'.prevGripperButton = st.pressed teleop.gripperButton
  pressed : grip.isSome = (st.pressed teleop.gripperButton && !teleop.prevGripperButton)
  known : ∀ cmd ∈ grip, teleop'.gripperOpen = some (!cmd.grasp)
  toggles : ∀ cmd ∈ grip, ∀ isOpen, teleop.gripperOpen = some isOpen → cmd.grasp = isOpen
  kept : grip = none → teleop'.gripperOpen = teleop.gripperOpen

theorem gripperFromButtons_toggles (teleop : SpaceMouseTeleop K) (st : SpaceMouseState K)
    (width : Option K) : Toggled teleop st (teleop.gripperFromButtons st width).1
      (teleop.gripperFromButtons st width).2 := by
  unfold SpaceMouseTeleop.gripperFromButtons
  dsimp only
  cases rising : st.pressed teleop.gripperButton && !teleop.prevGripperButton with
  | false =>
      rw [if_neg Bool.false_ne_true]
      exact ⟨rfl, rfl, rfl, rfl, rising.symm, fun cmd none => (by cases none),
        fun cmd none => (by cases none), fun _ => rfl⟩
  | true =>
      rw [if_pos rfl]
      unfold SpaceMouseTeleop.gripperIsOpen
      cases known : teleop.gripperOpen with
      | none =>
          refine ⟨rfl, rfl, rfl, rfl, rising.symm, ?_, ?_, fun none => (by cases none)⟩
          · intro cmd same
            cases same
            exact congrArg some (Bool.not_not _).symm
          · intro cmd _ isOpen was
            rw [known] at was
            cases was
      | some wasOpen =>
          refine ⟨rfl, rfl, rfl, rfl, rising.symm, ?_, ?_, fun none => (by cases none)⟩
          · intro cmd same
            cases same
            exact congrArg some (Bool.not_not _).symm
          · intro cmd same isOpen was
            rw [known] at was
            cases same
            cases was
            exact Bool.not_not _

def Quietly (calls calls' : List (Call (teleopEffects K))) : Prop :=
  ∃ more, calls' = calls ++ more ∧ ∀ c ∈ more, c.op.quiet = true

theorem Quietly.reads (quietly : Quietly calls calls') : readings calls' = readings calls := by
  obtain ⟨more, rfl, quiet⟩ := quietly
  have none : readings more = [] := by
    apply List.filterMap_eq_nil_iff.mpr
    rintro ⟨op, answer⟩ member
    have silent := quiet _ member
    cases op <;> first | rfl | cases silent
  rw [readings_append, none, List.append_nil]

theorem Quietly.serves (quietly : Quietly calls calls') : servos calls' = servos calls := by
  obtain ⟨more, rfl, quiet⟩ := quietly
  have none : servos more = [] := by
    apply List.filterMap_eq_nil_iff.mpr
    rintro ⟨op, answer⟩ member
    have silent := quiet _ member
    cases op <;> first | rfl | cases silent
  rw [servos_append, none, List.append_nil]

theorem Quietly.unclosed (quietly : Quietly calls calls') (unclosed : Unclosed calls) :
    Unclosed calls' := by
  obtain ⟨more, rfl, quiet⟩ := quietly
  intro c member
  rcases List.mem_append.mp member with earlier | later
  · exact unclosed c earlier
  · intro closing
    have silent := quiet c later
    rw [closing] at silent
    cases silent

theorem Quietly.synced (quietly : Quietly calls calls') (synced : Synced teleop₀ teleop calls) :
    Synced teleop₀ teleop calls' := by
  have grips : gripped calls' = gripped calls := by
    rw [gripped, quietly.serves, gripped]
  obtain ⟨deadband, deadman, button, down, known, once, counted, unclosed⟩ := synced
  refine ⟨deadband, deadman, button, ?_, ?_, ?_, ?_, quietly.unclosed unclosed⟩
  · rw [quietly.reads]
    exact down
  · rw [grips]
    exact known
  · rw [quietly.reads, quietly.serves]
    exact once
  · rw [quietly.reads, grips]
    exact counted

theorem quiet_ask {op : TeleopOp K} (silent : op.quiet = true) :
    Uses (S := teleopEffects K) (fun op => op.quiet = true) (TeleopM.ask op) := uses_request silent

theorem wp_quiet {α : Type} {x : TeleopM K α} (left : LeavesMemory x)
    (used : Uses (S := teleopEffects K) (fun op => op.quiet = true) x) (unclosed : Unclosed calls) :
    wp (Monitor.remembering (MayDrive settings teleop₀)) x
      (fun _ teleop' calls' => teleop' = teleop ∧ Quietly calls calls') teleop calls := by
  have kept : Keeps (Monitor.remembering (MayDrive settings teleop₀))
      (fun memory seen => memory = teleop ∧ Quietly calls seen) x := by
    apply left.keeps used
    · rintro _ seen op quiet ⟨_, quietly⟩
      refine ⟨quietly.unclosed unclosed, ?_⟩
      intro call same
      rw [same] at quiet
      cases quiet
    · rintro _ _ op answer quiet ⟨same, more, rfl, silent⟩
      refine ⟨same, more ++ [⟨op, answer⟩], List.append_assoc _ _ _, ?_⟩
      intro c member
      rcases List.mem_append.mp member with earlier | last
      · exact silent c earlier
      · rw [List.mem_singleton.mp last]
        exact quiet
  exact kept teleop calls ⟨rfl, [], (List.append_nil _).symm, fun c none => (by cases none)⟩

theorem wp_gripperFromButtons (unclosed : Unclosed calls) :
    wp (Monitor.remembering (MayDrive settings teleop₀)) (TeleopSettings.gripperFromButtons st)
      (fun out teleop' calls' => Quietly calls calls' ∧
        ∀ grip, out = .ok grip → Toggled teleop st grip teleop') teleop calls := by
  unfold TeleopSettings.gripperFromButtons
  rw [wp_bind, wp_get, afterStep_ok, wp_bind]
  have asked : wp (Monitor.remembering (MayDrive settings teleop₀))
      (TeleopSettings.widthFor teleop st)
      (fun _ teleop' calls' => teleop' = teleop ∧ Quietly calls calls') teleop calls := by
    unfold TeleopSettings.widthFor
    split
    · exact wp_quiet (LeavesMemory.tryCatch
        ((leavesMemory_request _).bind fun _ => leavesMemory_pure _)
        fun _ => leavesMemory_pure _) (Uses.tryCatch ((quiet_ask rfl).bind fun _ => uses_pure _)
        fun _ => uses_pure _) unclosed
    · exact wp_quiet (leavesMemory_pure _) (uses_pure _) unclosed
  apply wp_mono asked
  rintro width _ calls' ⟨rfl, quietly⟩
  cases width with
  | error e => exact ⟨quietly, fun grip impossible => by cases impossible⟩
  | ok width =>
      refine ⟨quietly, ?_⟩
      intro grip same
      cases same
      exact gripperFromButtons_toggles _ st width

theorem Synced.toggled (synced : Synced teleop₀ teleop calls) {grip : Option (GripperCommand K)}
    (toggled : Toggled teleop st grip teleop') (reads : readings calls' = readings calls ++ [st])
    (grips : gripped calls' = gripped calls ++ grip.toList)
    (serves : (servos calls').length ≤ (servos calls).length + 1) (unclosed : Unclosed calls') :
    Synced teleop₀ teleop' calls' where
  deadband := toggled.deadband.trans synced.deadband
  deadman := toggled.deadman.trans synced.deadman
  button := toggled.button.trans synced.button
  down := by
    rw [reads, SpaceMouseTeleop.buttonDown, List.getLast?_concat, toggled.down, synced.button]
    rfl
  known := by
    rw [grips]
    cases grip with
    | none =>
        rw [Option.toList_none, List.append_nil, toggled.kept rfl]
        exact synced.known
    | some cmd =>
        rw [Option.toList_some, List.getLast?_concat]
        exact toggled.known
  once := by
    have := synced.once
    rw [reads, List.length_append, List.length_singleton]
    omega
  counted := by
    have pressed := toggled.pressed
    rw [synced.button, synced.down, SpaceMouseTeleop.buttonDown] at pressed
    rw [grips, reads, List.length_append, synced.counted, presses_snoc, ← pressed]
    cases grip <;> rfl
  unclosed := unclosed

theorem Synced.heeds (synced : Synced teleop₀ teleop calls) (settings : TeleopSettings K)
    {grip : Option (GripperCommand K)}
    (toggled : Toggled teleop st grip teleop') (reads : readings calls' = readings calls ++ [st])
    (serves : servos calls' = servos calls)
    (called : teleop'.deadmanOk st = true ∨ grip.isSome = true) :
    Heeds settings teleop₀ calls' (readings calls) st
      (settings.servo (if teleop'.deadmanOk st then settings.toDelta teleop' st else (0, 0))
        grip) := by
  have gated : teleop'.deadmanOk st = teleop₀.deadmanOk st := by
    rw [SpaceMouseTeleop.deadmanOk, toggled.deadman, synced.deadman, SpaceMouseTeleop.deadmanOk]
  have mapped : settings.toDelta teleop' st = settings.toDelta teleop₀ st := by
    unfold TeleopSettings.toDelta SpaceMouseTeleop.applyDeadband
    rw [toggled.deadband, synced.deadband]
  refine ⟨reads, ?_, ?_, ?_, ?_, ?_⟩
  · rw [serves]
    exact synced.once
  · rw [gated, mapped]
    rfl
  · rw [← synced.down, ← synced.button]
    exact toggled.pressed
  · rw [← gated]
    exact called
  · intro cmd given last previous
    rw [gripped, serves] at previous
    exact toggled.toggles cmd given _ (synced.known last previous)

theorem wp_toggled (synced : Synced teleop₀ teleop calls) {grip : Option (GripperCommand K)}
    (toggled : Toggled teleop st grip teleop') (reads : readings calls' = readings calls ++ [st])
    (serves : servos calls' = servos calls) (unclosed : Unclosed calls') :
    wp (Monitor.remembering (MayDrive settings teleop₀)) (settings.answer st grip)
      (fun out teleop'' calls'' => Unclosed calls'' ∧ (out = .ok () →
        Synced teleop₀ teleop'' calls'' ∧ readings calls'' = readings calls')) teleop' calls' := by
  have asks (delta : Vec3 K × Vec3 K)
      (heeds : Heeds settings teleop₀ calls' (readings calls) st (settings.servo delta grip)) :
      wp (Monitor.remembering (MayDrive settings teleop₀)) (do
          let _ ← TeleopM.ask (.servoCartesianDelta (settings.servo delta grip))
          pure ())
        (fun out teleop'' calls'' => Unclosed calls'' ∧ (out = .ok () →
          Synced teleop₀ teleop'' calls'' ∧ readings calls'' = readings calls'))
      teleop' calls' := by
    rw [wp_bind, wp_request]
    refine ⟨⟨unclosed, ?_⟩, ?_⟩
    · intro call same
      cases same
      exact ⟨_, st, heeds⟩
    intro answer _
    let last : Call (teleopEffects K) := ⟨.servoCartesianDelta (settings.servo delta grip), answer⟩
    have open' : Unclosed (calls' ++ [last]) :=
      unclosed.snoc fun impossible => by cases impossible
    have read : readings (calls' ++ [last]) = readings calls' := by
      rw [readings_append]
      exact List.append_nil _
    have served : servos (calls' ++ [last]) = servos calls ++ [settings.servo delta grip] := by
      rw [servos_append, serves]
      rfl
    have grips : gripped (calls' ++ [last]) = gripped calls ++ grip.toList := by
      rw [gripped, served, List.filterMap_append, gripped]
      cases grip <;> rfl
    have few : (servos (calls' ++ [last])).length ≤ (servos calls).length + 1 := by
      rw [served, List.length_append, List.length_singleton]
    cases answer with
    | error e => exact ⟨open', fun impossible => by cases impossible⟩
    | ok result =>
        exact ⟨open', fun _ => ⟨synced.toggled toggled (read.trans reads) grips few open', read⟩⟩
  unfold TeleopSettings.answer
  rw [wp_bind, wp_get, afterStep_ok]
  have heeds := synced.heeds settings toggled reads serves
  split
  · rename_i held
    rw [if_pos held] at heeds
    exact asks _ (heeds (Or.inl held))
  · rename_i released
    rw [if_neg released] at heeds
    split
    · rename_i given
      exact asks _ (heeds (Or.inr given))
    · rename_i none
      have silent : grip = Option.none := Option.not_isSome_iff_eq_none.mp none
      refine ⟨unclosed, fun _ => ⟨synced.toggled toggled reads ?_ ?_ unclosed, rfl⟩⟩
      · rw [gripped, serves, silent]
        exact (List.append_nil _).symm
      · rw [serves]
        exact Nat.le_succ _

theorem quiet_pace (settings : TeleopSettings K) (nextTick : K) :
    LeavesMemory (settings.pace nextTick) ∧
    Uses (S := teleopEffects K) (fun op => op.quiet = true) (settings.pace nextTick) := by
  constructor
  · apply (leavesMemory_request _).bind
    intro now
    dsimp only
    split
    · exact (leavesMemory_request _).bind fun _ => leavesMemory_pure _
    · exact leavesMemory_request _
  · apply (quiet_ask rfl).bind
    intro now
    dsimp only
    split
    · exact (quiet_ask rfl).bind fun _ => uses_pure _
    · exact quiet_ask rfl

theorem quiet_ended (duration : Option K) (maxTicks : Option Int) (tStart : K) (ticks : Nat) :
    LeavesMemory (TeleopSettings.ended duration maxTicks tStart ticks) ∧
      Uses (S := teleopEffects K) (fun op => op.quiet = true)
        (TeleopSettings.ended duration maxTicks tStart ticks) := by
  have late : LeavesMemory (TeleopSettings.expired duration tStart) ∧
      Uses (S := teleopEffects K) (fun op => op.quiet = true)
        (TeleopSettings.expired duration tStart) := by
    cases duration with
    | none => exact ⟨leavesMemory_pure _, uses_pure _⟩
    | some duration =>
        exact ⟨(leavesMemory_request _).bind fun _ => leavesMemory_pure _,
          (quiet_ask rfl).bind fun _ => uses_pure _⟩
  exact ⟨late.1.bind fun _ => leavesMemory_pure _, late.2.bind fun _ => uses_pure _⟩

theorem ended_returns (duration : Option K) (maxTicks : Option Int) (tStart : K) (ticks : Nat) :
    Returns (fun stops => stops = false → ∀ most, maxTicks = some most → (ticks : Int) < most)
      (TeleopSettings.ended duration maxTicks tStart ticks) := by
  apply Returns.after
  intro late
  apply returns_pure
  rintro goesOn most rfl
  have open' := (Bool.or_eq_false_iff.mp goesOn).2
  exact not_le.mp (of_decide_eq_false open')

/-- How the loop is left: with the source still open, and, unless something raised, with a
tick for each reading. -/
def LoopLeft (teleop₀ : SpaceMouseTeleop K) (maxTicks : Option Int) (rounds ticks : Nat)
    (out : Except Exc (Nat × Bool)) (teleop : SpaceMouseTeleop K)
    (calls : List (Call (teleopEffects K))) : Prop :=
  Unclosed calls ∧ ∀ n running, out = .ok (n, running) →
    Synced teleop₀ teleop calls ∧ (readings calls).length = n ∧
      (running = true → n = ticks + rounds) ∧
      ∀ most, maxTicks = some most → (n : Int) ≤ max most ticks

theorem round_drives {duration : Option K} {maxTicks : Option Int} {tStart nextTick : K}
    {rounds ticks : Nat} (synced : Synced teleop₀ teleop calls) (st : SpaceMouseState K)
    (counted : (readings calls).length = ticks)
    (later : ∀ {teleop : SpaceMouseTeleop K} {calls : List (Call (teleopEffects K))} (nextTick : K)
      (ticks : Nat), Synced teleop₀ teleop calls → (readings calls).length = ticks →
      wp (Monitor.remembering (MayDrive settings teleop₀))
        (settings.loop duration maxTicks tStart rounds nextTick ticks)
        (LoopLeft teleop₀ maxTicks rounds ticks) teleop calls) :
    wp (Monitor.remembering (MayDrive settings teleop₀)) (do
        let grip ← TeleopSettings.gripperFromButtons st
        settings.answer st grip
        let nextTick ← settings.pace nextTick
        settings.loop duration maxTicks tStart rounds nextTick (ticks + 1))
      (LoopLeft teleop₀ maxTicks rounds (ticks + 1)) teleop (calls ++ [⟨.read, .ok st⟩]) := by
  have open' : Unclosed (calls ++ [(⟨.read, .ok st⟩ : Call (teleopEffects K))]) :=
    synced.unclosed.snoc fun impossible => by cases impossible
  rw [wp_bind]
  apply wp_mono (wp_gripperFromButtons open')
  rintro grip teleop' calls₁ ⟨quietly, toggles⟩
  cases grip with
  | error e => exact ⟨quietly.unclosed open', fun n running impossible => by cases impossible⟩
  | ok grip =>
      have reads : readings calls₁ = readings calls ++ [st] := by
        rw [quietly.reads, readings_append]
        rfl
      have serves : servos calls₁ = servos calls := by
        rw [quietly.serves, servos_append]
        exact List.append_nil _
      rw [afterStep_ok, wp_bind]
      apply wp_mono (wp_toggled synced (toggles grip rfl) reads serves (quietly.unclosed open'))
      rintro answered teleop'' calls₂ ⟨unclosed, follows⟩
      cases answered with
      | error e => exact ⟨unclosed, fun n running impossible => by cases impossible⟩
      | ok _ =>
          obtain ⟨synced₂, kept⟩ := follows rfl
          obtain ⟨left, used⟩ := quiet_pace settings nextTick
          rw [afterStep_ok, wp_bind]
          apply wp_mono (wp_quiet left used unclosed)
          rintro deadline _ calls₃ ⟨rfl, quietly₃⟩
          cases deadline with
          | error e =>
              exact ⟨quietly₃.unclosed unclosed, fun n running impossible => by cases impossible⟩
          | ok deadline =>
              rw [afterStep_ok]
              apply later deadline (ticks + 1) (quietly₃.synced synced₂)
              rw [quietly₃.reads, kept, reads, List.length_append, counted]
              rfl

theorem wp_loop (duration : Option K) (maxTicks : Option Int) (tStart : K) (rounds : Nat) :
    ∀ {teleop : SpaceMouseTeleop K} {calls : List (Call (teleopEffects K))} (nextTick : K)
      (ticks : Nat),
      Synced teleop₀ teleop calls → (readings calls).length = ticks →
      wp (Monitor.remembering (MayDrive settings teleop₀))
        (settings.loop duration maxTicks tStart rounds nextTick ticks)
        (LoopLeft teleop₀ maxTicks rounds ticks) teleop calls := by
  induction rounds with
  | zero =>
      intro teleop calls nextTick ticks synced counted
      refine ⟨synced.unclosed, ?_⟩
      intro n running same
      cases same
      exact ⟨synced, counted, fun _ => rfl, fun most _ => le_max_right _ _⟩
  | succ rounds ih =>
      intro teleop calls nextTick ticks synced counted
      unfold TeleopSettings.loop
      obtain ⟨left, used⟩ := quiet_ended duration maxTicks tStart ticks
      rw [wp_bind]
      apply wp_mono (wp_returns (wp_quiet left used synced.unclosed)
        (ended_returns duration maxTicks tStart ticks))
      rintro stops _ calls₁ ⟨⟨rfl, quietly⟩, bounded⟩
      have synced₁ := quietly.synced synced
      cases stops with
      | error e => exact ⟨synced₁.unclosed, fun n running impossible => by cases impossible⟩
      | ok stops =>
          rw [afterStep_ok]
          cases stops with
          | true =>
              refine ⟨synced₁.unclosed, ?_⟩
              intro n running same
              cases same
              exact ⟨synced₁, quietly.reads ▸ counted, fun impossible => (by cases impossible),
                fun most _ => le_max_right _ _⟩
          | false =>
              rw [if_neg Bool.false_ne_true, wp_bind, wp_request]
              refine ⟨⟨synced₁.unclosed, fun call impossible => by cases impossible⟩, ?_⟩
              intro answer _
              cases answer with
              | error e =>
                  exact ⟨synced₁.unclosed.snoc fun impossible => (by cases impossible),
                    fun n running impossible => by cases impossible⟩
              | ok st =>
                  apply wp_mono (round_drives synced₁ st (quietly.reads ▸ counted) ih)
                  intro out last calls' left
                  refine ⟨left.1, ?_⟩
                  intro n running same
                  obtain ⟨synced', count, going, most⟩ := left.2 n running same
                  refine ⟨synced', count, fun runs => ?_, ?_⟩
                  · have := going runs
                    omega
                  · intro limit maximum
                    have := most limit maximum
                    have := bounded false rfl rfl limit maximum
                    omega

/-! ### The whole run -/

def ClosedLast (calls : List (Call (teleopEffects K))) : Prop :=
  calls.getLast?.map (·.op) = some TeleopOp.closeSource

/-- How a run ends: the source is closed once anything has been read, a tick is counted for
each reading and a gripper command for each press. -/
structure DriveEnds (teleop₀ : SpaceMouseTeleop K) (maxTicks : Option Int) (rounds : Nat)
    (out : Except Exc (Nat × Bool)) (calls : List (Call (teleopEffects K))) : Prop where
  raised : ∀ e, out = .error e → readings calls = [] ∨ ClosedLast calls
  stopped : ∀ n, out = .ok (n, false) → ClosedLast calls
  running : ∀ n, out = .ok (n, true) → n = rounds
  ticks : ∀ n goesOn, out = .ok (n, goesOn) → (readings calls).length = n ∧
    ∀ most, maxTicks = some most → n ≤ most.toNat
  grips : ∀ n goesOn, out = .ok (n, goesOn) → (gripped calls).length =
    presses teleop₀.gripperButton teleop₀.prevGripperButton (readings calls)

theorem wp_close {α : Type} {f : Unit → TeleopM K α} {post : Except Exc α → SpaceMouseTeleop K →
      List (Call (teleopEffects K)) → Prop} (unclosed : Unclosed calls)
    (rest : ∀ answer, wp (Monitor.remembering (MayDrive settings teleop₀)) (f ()) post teleop
      (calls ++ [⟨.closeSource, .ok answer⟩]))
    (raised : ∀ e, post (.error e) teleop (calls ++ [⟨.closeSource, .error e⟩])) :
    wp (Monitor.remembering (MayDrive settings teleop₀)) (do
      TeleopM.ask .closeSource
      f ()) post teleop calls := by
  rw [wp_bind, wp_request]
  refine ⟨⟨unclosed, fun call impossible => by cases impossible⟩, ?_⟩
  intro answer _
  cases answer with
  | ok u => exact rest u
  | error e => exact raised e

theorem closedLast_snoc (answer : Except Exc Unit) :
    ClosedLast (calls ++ [(⟨.closeSource, answer⟩ : Call (teleopEffects K))]) := by
  rw [ClosedLast, List.getLast?_concat]
  rfl

theorem driveEnds_raised {maxTicks : Option Int} {rounds : Nat} (e : Exc)
    (closed : ClosedLast calls) : DriveEnds teleop₀ maxTicks rounds (.error e) calls where
  raised _ _ := Or.inr closed
  stopped n impossible := by cases impossible
  running n impossible := by cases impossible
  ticks n goesOn impossible := by cases impossible
  grips n goesOn impossible := by cases impossible

theorem driveEnds_counted {maxTicks : Option Int} {rounds n : Nat} {goesOn : Bool}
    (counted : (readings calls).length = n)
    (grips : (gripped calls).length =
      presses teleop₀.gripperButton teleop₀.prevGripperButton (readings calls))
    (limited : ∀ most, maxTicks = some most → n ≤ most.toNat)
    (going : goesOn = true → n = rounds) (closed : goesOn = false → ClosedLast calls) :
    DriveEnds teleop₀ maxTicks rounds (.ok (n, goesOn)) calls where
  raised e impossible := by cases impossible
  stopped n' same := by
    cases same
    exact closed rfl
  running n' same := by
    cases same
    exact going rfl
  ticks n' goesOn' same := by
    cases same
    exact ⟨counted, limited⟩
  grips n' goesOn' same := by
    cases same
    exact grips

theorem quiet_ready (settings : TeleopSettings K) : LeavesMemory settings.ready ∧
    Uses (S := teleopEffects K) (fun op => op.quiet = true) settings.ready := by
  have leased : LeavesMemory settings.lease ∧
      Uses (S := teleopEffects K) (fun op => op.quiet = true) settings.lease := by
    constructor
    · apply (leavesMemory_request _).tryCatch
      intro e
      split
      · exact leavesMemory_request _
      · exact leavesMemory_throw _
    · apply (quiet_ask rfl).tryCatch
      intro e
      split
      · exact quiet_ask rfl
      · exact uses_throw _
  constructor
  · exact (leavesMemory_request _).bind fun _ => leased.1.bind fun _ =>
      (leavesMemory_request _).bind fun _ =>
      (leavesMemory_request _).bind fun _ =>
      (leavesMemory_request _).bind fun _ => leavesMemory_pure _
  · exact (quiet_ask rfl).bind fun _ => leased.2.bind fun _ => (quiet_ask rfl).bind fun _ =>
      (quiet_ask rfl).bind fun _ => (quiet_ask rfl).bind fun _ => uses_pure _

theorem wp_run (duration : Option K) (maxTicks : Option Int) (rounds : Nat) :
    wp (Monitor.remembering (MayDrive settings teleop₀)) (settings.run duration maxTicks rounds)
      (fun out _ calls => DriveEnds teleop₀ maxTicks rounds out calls) teleop₀ [] := by
  have unclosed : Unclosed ([] : List (Call (teleopEffects K))) := fun c none => by cases none
  obtain ⟨left, used⟩ := quiet_ready settings
  unfold TeleopSettings.run
  rw [wp_bind]
  apply wp_mono (wp_quiet left used unclosed)
  rintro begun teleop calls ⟨same, quietly⟩
  obtain rfl : teleop₀ = teleop := same.symm
  cases begun with
  | error e => exact ⟨fun _ _ => Or.inl quietly.reads, fun n impossible => (by cases impossible),
      fun n impossible => (by cases impossible), fun n goesOn impossible => (by cases impossible),
      fun n goesOn impossible => by cases impossible⟩
  | ok begun =>
      have synced : Synced teleop₀ teleop₀ calls :=
        quietly.synced ⟨rfl, rfl, rfl, rfl, fun cmd none => (by cases none), le_rfl, rfl, unclosed⟩
      rw [afterStep_ok, wp_bind, wp_tryCatch]
      apply wp_mono (wp_loop duration maxTicks begun.1 rounds begun.2 0 synced
        (congrArg List.length quietly.reads))
      rintro out teleop calls' ⟨unclosed', ends⟩
      cases out with
      | error e =>
          refine wp_close (f := fun _ => throw e) unclosed' ?_ ?_
          · exact fun answer => driveEnds_raised e (closedLast_snoc _)
          · exact fun e' => driveEnds_raised e' (closedLast_snoc _)
      | ok out =>
          obtain ⟨n, goesOn⟩ := out
          obtain ⟨synced', counted, going, most⟩ := ends n goesOn rfl
          have limited : ∀ limit, maxTicks = some limit → n ≤ limit.toNat := by
            intro limit maximum
            have := most limit maximum
            omega
          rw [afterStep_ok]
          cases goesOn with
          | true =>
              exact driveEnds_counted counted synced'.counted limited
                (fun _ => (going rfl).trans (Nat.zero_add _)) fun impossible => by cases impossible
          | false =>
              rw [afterStep_ok, if_neg Bool.false_ne_true]
              refine wp_close (f := fun _ => pure (n, false)) unclosed' ?_ ?_
              · intro answer
                have same : readings (calls' ++ [(⟨.closeSource, .ok answer⟩ :
                    Call (teleopEffects K))]) = readings calls' := by
                  rw [readings_append]
                  exact List.append_nil _
                apply driveEnds_counted (same ▸ counted) _ limited
                  (fun impossible => by cases impossible) (fun _ => closedLast_snoc _)
                rw [same, gripped_append]
                exact (congrArg List.length (List.append_nil _)).trans synced'.counted
              · exact fun e => driveEnds_raised e (closedLast_snoc _)

section Runs

variable {duration : Option K} {maxTicks : Option Int} {rounds : Nat}
  {left : Program (teleopEffects K) (Except Exc (Nat × Bool) × SpaceMouseTeleop K)}

theorem run_mayDrive (ran : Trace (settings.run duration maxTicks rounds teleop₀) calls left)
    {before after : List (Call (teleopEffects K))} {c : Call (teleopEffects K)}
    (split : calls = before ++ c :: after) : MayDrive settings teleop₀ before c.op := by
  subst split
  have allowed := (Program.wp_sound (wp_run duration maxTicks rounds) ran
    ((Monitor.remembering (MayDrive settings teleop₀)).admitted_of_forall
      (fun _ _ => trivial) _ _)).1
  have driven := Monitor.Allowed.at_call allowed
  rw [Monitor.run_remembering, List.nil_append] at driven
  exact driven

theorem run_ends {out : Except Exc (Nat × Bool)} (ran : Trace
      (settings.run duration maxTicks rounds teleop₀) calls (.done (out, teleop))) :
    DriveEnds teleop₀ maxTicks rounds out calls := by
  have ended := (Program.wp_sound (wp_run duration maxTicks rounds) ran
    ((Monitor.remembering (MayDrive settings teleop₀)).admitted_of_forall
      (fun _ _ => trivial) _ _)).2
  rw [Monitor.run_remembering, List.nil_append] at ended
  exact ended

/-- Whatever the device, the robot and the clock answer: the arm moves as the operator says and
only while the deadman is held, each press of the gripper button comes to one command, opening
and closing in turn, and nothing happens after the source is closed, as it always is. -/
theorem teleop_heeds_operator
    (ran : Trace (settings.run duration maxTicks rounds teleop₀) calls left) :
    (∀ before c after, calls = before ++ c :: after → MayDrive settings teleop₀ before c.op) ∧
      ∀ out teleop, left = .done (out, teleop) → DriveEnds teleop₀ maxTicks rounds out calls := by
  constructor
  · exact fun before c after split => run_mayDrive ran split
  · rintro out teleop rfl
    exact run_ends ran

end Runs

end Operator

end Loop

/-! ### A few rounds -/

section Rounds

variable {K : Type} [Scalar K] {settings : TeleopSettings K} {teleop teleop' : SpaceMouseTeleop K}

theorem answer_moves (st : SpaceMouseState K) {grip : Option (GripperCommand K)}
    (holds : teleop.deadmanOk st = true) (result : ExecutionResult K) :
    Trace (settings.answer st grip teleop)
      [⟨.servoCartesianDelta (settings.servo (settings.toDelta teleop st) grip), .ok result⟩]
      (.done (.ok (), teleop)) := by
  change Trace ((if teleop.deadmanOk st = true then _ else _ : TeleopM K Unit) teleop) _ _
  rw [if_pos holds]
  exact .cons (.nil _)

theorem answer_grips (st : SpaceMouseState K) {cmd : GripperCommand K}
    (released : teleop.deadmanOk st = false) (result : ExecutionResult K) :
    Trace (settings.answer st (some cmd) teleop)
      [⟨.servoCartesianDelta (settings.servo (0, 0) (some cmd)), .ok result⟩]
      (.done (.ok (), teleop)) := by
  change Trace ((if teleop.deadmanOk st = true then _ else _ : TeleopM K Unit) teleop) _ _
  rw [released, if_neg Bool.false_ne_true]
  exact .cons (.nil _)

def waited (settings : TeleopSettings K) (nextTick now : K) : List (Call (teleopEffects K)) :=
  [⟨.perfCounter, .ok now⟩, ⟨.sleep (nextTick + settings.dt - now), .ok ()⟩]

theorem pace_waited {nextTick now : K} (early : 0 < nextTick + settings.dt - now) :
    Trace (settings.pace nextTick teleop) (waited settings nextTick now)
      (.done (.ok (nextTick + settings.dt), teleop)) := by
  refine .cons ?_
  change Trace ((if 0 < nextTick + settings.dt - now then _ else _ : TeleopM K K) teleop) _ _
  rw [if_pos early]
  exact .cons (.nil _)

theorem pace_late {nextTick now now' : K} (late : ¬ 0 < nextTick + settings.dt - now) :
    Trace (settings.pace nextTick teleop) [⟨.perfCounter, .ok now⟩, ⟨.perfCounter, .ok now'⟩]
      (.done (.ok now', teleop)) := by
  refine .cons ?_
  change Trace ((if 0 < nextTick + settings.dt - now then _ else _ : TeleopM K K) teleop) _ _
  rw [if_neg late]
  exact .cons (.nil _)

theorem loop_round {most : Int} {ticks rounds : Nat} (more : (ticks : Int) < most)
    {tStart nextTick nextTick' : K} {st : SpaceMouseState K} {grip : Option (GripperCommand K)}
    {asked answered paced later : List (Call (teleopEffects K))}
    {left : Program (teleopEffects K) (Except Exc (Nat × Bool) × SpaceMouseTeleop K)}
    (grips : Trace (TeleopSettings.gripperFromButtons st teleop) asked
      (.done (.ok grip, teleop')))
    (answers : Trace (settings.answer st grip teleop') answered (.done (.ok (), teleop')))
    (paces : Trace (settings.pace nextTick teleop') paced (.done (.ok nextTick', teleop')))
    (rest : Trace (settings.loop none (some most) tStart rounds nextTick' (ticks + 1) teleop')
      later left) :
    Trace (settings.loop none (some most) tStart (rounds + 1) nextTick ticks teleop)
      (⟨.read, .ok st⟩ :: (asked ++ (answered ++ (paced ++ later)))) left := by
  unfold TeleopSettings.loop
  have goesOn : (decide (most ≤ (ticks : Int))) = false := decide_eq_false (by omega)
  change Trace ((if (false || decide (most ≤ (ticks : Int))) = true then _ else _ :
    TeleopM K (Nat × Bool)) teleop) _ _
  rw [goesOn, if_neg (by decide)]
  exact .cons ((grips.bind _).append ((answers.bind _).append ((paces.bind _).append rest)))

theorem loop_last {most : Int} {ticks rounds : Nat} (enough : most ≤ (ticks : Int))
    {tStart nextTick : K} :
    Trace (settings.loop none (some most) tStart (rounds + 1) nextTick ticks teleop) []
      (.done (.ok (ticks, false), teleop)) := by
  unfold TeleopSettings.loop
  have stops : (decide (most ≤ (ticks : Int))) = true := decide_eq_true enough
  change Trace ((if (false || decide (most ≤ (ticks : Int))) = true then _ else _ :
    TeleopM K (Nat × Bool)) teleop) _ _
  rw [stops, if_pos (by decide)]
  exact .nil _

theorem run_closed {duration : Option K} {maxTicks : Option Int} {rounds n : Nat} {begun : K × K}
    {asked calls : List (Call (teleopEffects K))}
    (readied : Trace (settings.ready teleop) asked (.done (.ok begun, teleop)))
    (looped : Trace (settings.loop duration maxTicks begun.1 rounds begun.2 0 teleop) calls
      (.done (.ok (n, false), teleop'))) :
    Trace (settings.run duration maxTicks rounds teleop)
      (asked ++ (calls ++ [⟨.closeSource, .ok ()⟩])) (.done (.ok (n, false), teleop')) := by
  refine (readied.bind _).append ?_
  exact ((looped.bind _).bind _).append (.cons (.nil _))

end Rounds

noncomputable def deadmanUp : SpaceMouseState ℝ := { pushed with buttons := [0, 1] }

noncomputable def bothDown : SpaceMouseState ℝ := { pushed with buttons := [1, 1] }

noncomputable def pushedDelta : TeleopServo ℝ :=
  ({} : TeleopSettings ℝ).servo (({} : TeleopSettings ℝ).toDelta {} pushed) none

noncomputable def opens : TeleopServo ℝ :=
  ({} : TeleopSettings ℝ).servo (0, 0) (some { width := Scalar.ofRat (9 / 100), grasp := false })

noncomputable def opened : SpaceMouseTeleop ℝ :=
  { gripperOpen := some true, prevGripperButton := true }

def unreadable : Exc := ⟨.runtimeError, "not connected"⟩

noncomputable def readying : List (Call (teleopEffects ℝ)) :=
  [⟨.openSource, .ok ()⟩, ⟨.acquireLease (some "spacemouse"), .ok ()⟩,
    ⟨.startCartesianImpedance, .ok ()⟩, ⟨.time, .ok 0⟩, ⟨.perfCounter, .ok 0⟩]

noncomputable def regripping : List (Call (teleopEffects ℝ)) :=
  [⟨.read, .ok pushed⟩, ⟨.servoCartesianDelta pushedDelta, .ok {}⟩] ++ waited {} 0 0 ++
    [⟨.read, .ok deadmanUp⟩, ⟨.getState, .error unreadable⟩, ⟨.servoCartesianDelta opens, .ok {}⟩,
      ⟨.perfCounter, .ok (1 / 10 / 2)⟩, ⟨.perfCounter, .ok (1 / 10 / 2)⟩, ⟨.read, .ok bothDown⟩]

noncomputable def drive : List (Call (teleopEffects ℝ)) :=
  readying ++ (regripping ++ ⟨.servoCartesianDelta pushedDelta, .ok {}⟩ ::
    waited {} (1 / 10 / 2) (1 / 10 / 2) ++ [⟨.closeSource, .ok ()⟩])

theorem rounds_traced : Trace (({} : TeleopSettings ℝ).loop none (some 3) 0 4 0 0 {})
    (regripping ++ ⟨.servoCartesianDelta pushedDelta, .ok {}⟩ :: waited {} (1 / 10 / 2) (1 / 10 / 2))
    (.done (.ok (3, false), opened)) := by
  have early (t : ℝ) : 0 < t + ({} : TeleopSettings ℝ).dt - t := by
    norm_num [TeleopSettings.dt]
  have late : ¬ 0 < 0 + ({} : TeleopSettings ℝ).dt + ({} : TeleopSettings ℝ).dt - 1 / 10 / 2 := by
    norm_num [TeleopSettings.dt]
  have asks : Trace (TeleopSettings.gripperFromButtons deadmanUp {})
      [⟨.getState, .error unreadable⟩]
      (.done (.ok (some { width := Scalar.ofRat (9 / 100), grasp := false }), opened)) :=
    .cons (.nil _)
  have third : Trace (({} : TeleopSettings ℝ).loop none (some 3) 0 2 (1 / 10 / 2) 2 opened) _ _ :=
    loop_round (by decide) (.nil _) (answer_moves bothDown rfl {})
      (pace_waited (early (1 / 10 / 2))) (loop_last (by decide))
  have second := loop_round (by decide) asks (answer_grips deadmanUp rfl {}) (pace_late late) third
  have first : Trace (({} : TeleopSettings ℝ).loop none (some 3) 0 4 0 0 {}) _ _ :=
    loop_round (by decide) (.nil _) (answer_moves pushed rfl {}) (pace_waited (early 0))
      second
  exact first

theorem drive_traced : Trace (({} : TeleopSettings ℝ).run none (some 3) 4 {}) drive
    (.done (.ok (3, false), opened)) := by
  have readied : Trace (({} : TeleopSettings ℝ).ready {}) readying (.done (.ok (0, 0), {})) :=
    .cons (.cons (.cons (.cons (.cons (.nil _)))))
  exact run_closed readied rounds_traced

theorem teleop_heeds_operator_drive :
    (∀ before c after, drive = before ++ c :: after → MayDrive {} {} before c.op) ∧
      DriveEnds {} (some 3) 4 (.ok (3, false)) drive ∧
      servos drive = [pushedDelta, opens, pushedDelta] := by
  obtain ⟨driven, ends⟩ := teleop_heeds_operator drive_traced
  exact ⟨driven, ends _ _ rfl, rfl⟩

end FlexivControl
