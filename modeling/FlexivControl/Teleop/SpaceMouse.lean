/-
Taking over from a policy with the SpaceMouse.

The device says how the arm moves, a button toggles the gripper. Whether the gripper is
open is read off the robot the first time it is asked for, and remembered.
-/

import FlexivControl.Core.Types

namespace FlexivControl

variable {K : Type} [Scalar K]

structure SpaceMouseState (K : Type) [Scalar K] where
  translation : Vec3 K := 0
  rotation : Vec3 K := 0
  buttons : List Int := []

namespace SpaceMouseState

def magnitude (st : SpaceMouseState K) : K :=
  Scalar.sqrt (st.translation.x * st.translation.x + st.translation.y * st.translation.y +
    st.translation.z * st.translation.z + st.rotation.x * st.rotation.x +
    st.rotation.y * st.rotation.y + st.rotation.z * st.rotation.z)

/-- A button the device does not have is not pressed. -/
def pressed (st : SpaceMouseState K) (button : Nat) : Bool :=
  match st.buttons[button]? with
  | none => false
  | some value => decide (value ≠ 0)

end SpaceMouseState

/-- The teleop object; `gripperOpen` is unset until the first use. -/
structure SpaceMouseTeleop (K : Type) [Scalar K] where
  deadband : K := Scalar.ofRat (1 / 20)
  deadmanButton : Option Nat := some 0
  gripperButton : Nat := 1
  gripperOpenWidth : K := Scalar.ofRat (9 / 100)
  gripperCloseWidth : K := Scalar.ofRat (1 / 100)
  gripperOpen : Option Bool := none
  prevGripperButton : Bool := false

/-- `[dx, dy, dz, drx, dry, drz, gripper]`. -/
structure TeleopAction (K : Type) where
  linear : Vec3 K
  angular : Vec3 K
  gripper : K

namespace SpaceMouseTeleop

def clear (deadband x : K) : K := if Scalar.abs x < deadband then 0 else x

def applyDeadband (teleop : SpaceMouseTeleop K) (v : Vec3 K) : Vec3 K :=
  ⟨clear teleop.deadband v.x, clear teleop.deadband v.y, clear teleop.deadband v.z⟩

def clipUnit (v : Vec3 K) : Vec3 K :=
  ⟨Scalar.clip v.x (-1) 1, Scalar.clip v.y (-1) 1, Scalar.clip v.z (-1) 1⟩

/-- A gripper as wide as this counts as closed. -/
def openThreshold : K := Scalar.ofRat (1 / 25)

/-- What the robot's width says; closed where the robot has no state to report. -/
def inferOpen : Option K → Bool
  | none => false
  | some width => decide (openThreshold < width)

/-- `width` is what the robot would report now; it is only asked while nothing is known. -/
def gripperIsOpen (teleop : SpaceMouseTeleop K) (width : Option K) :
    Bool × SpaceMouseTeleop K :=
  match teleop.gripperOpen with
  | some isOpen => (isOpen, teleop)
  | none => (inferOpen width, { teleop with gripperOpen := some (inferOpen width) })

def deadmanOk (teleop : SpaceMouseTeleop K) (st : SpaceMouseState K) : Bool :=
  match teleop.deadmanButton with
  | none => true
  | some button => st.pressed button

def gripperFromButtons (teleop : SpaceMouseTeleop K) (st : SpaceMouseState K)
    (width : Option K) : Option (GripperCommand K) × SpaceMouseTeleop K :=
  let pressed := st.pressed teleop.gripperButton
  let rising := pressed && !teleop.prevGripperButton
  let teleop := { teleop with prevGripperButton := pressed }
  if rising then
    let wasOpen := teleop.gripperIsOpen width
    let isOpen := !wasOpen.1
    let teleop := { wasOpen.2 with gripperOpen := some isOpen }
    (some { width := if isOpen then teleop.gripperOpenWidth else teleop.gripperCloseWidth,
            grasp := !isOpen }, teleop)
  else (none, teleop)

def moving (teleop : SpaceMouseTeleop K) (st : SpaceMouseState K) : Bool :=
  decide (teleop.deadband < st.magnitude) && teleop.deadmanOk st

def gripperChannel (isOpen : Bool) : K := if isOpen then 1 else -1

/-- The action and whether the operator has taken over. -/
def intervention (teleop : SpaceMouseTeleop K) (st : SpaceMouseState K) (width : Option K)
    (policyAction : TeleopAction K) : (TeleopAction K × Bool) × SpaceMouseTeleop K :=
  let teleop := (teleop.gripperFromButtons st width).2
  if teleop.moving st then
    let isOpen := teleop.gripperIsOpen width
    (({ linear := clipUnit (teleop.applyDeadband st.translation),
        angular := clipUnit (teleop.applyDeadband st.rotation),
        gripper := gripperChannel isOpen.1 }, true), isOpen.2)
  else ((policyAction, false), teleop)

end SpaceMouseTeleop

/-! ### Successive calls -/

/-- What a call of `intervention` meets: the device, the robot's gripper width if it has a
state to report, and what the policy wants. -/
structure TeleopCall (K : Type) [Scalar K] where
  device : SpaceMouseState K
  width : Option K
  policyAction : TeleopAction K

namespace SpaceMouseTeleop

def interventions : SpaceMouseTeleop K → List (TeleopCall K) → List (TeleopAction K × Bool)
  | _, [] => []
  | teleop, call :: rest =>
      let result := teleop.intervention call.device call.width call.policyAction
      result.1 :: result.2.interventions rest

/-- While the gripper button is up a call remembers that it is, and what it has read if it
takes over and knows nothing yet. -/
theorem intervention_unpressed {teleop : SpaceMouseTeleop K} {call : TeleopCall K}
    (unpressed : call.device.pressed teleop.gripperButton = false) :
    let result := teleop.intervention call.device call.width call.policyAction
    let isOpen := teleop.gripperOpen.getD (inferOpen call.width)
    result.1.2 = teleop.moving call.device ∧
      (teleop.moving call.device = true → result.1.1.gripper = gripperChannel isOpen) ∧
      result.2 = { teleop with
        prevGripperButton := false
        gripperOpen := if teleop.moving call.device then some isOpen else teleop.gripperOpen } := by
  dsimp only
  have released : teleop.gripperFromButtons call.device call.width =
      (none, { teleop with prevGripperButton := false }) := by
    rw [gripperFromButtons, unpressed]
    rfl
  have same : ({ teleop with prevGripperButton := false } : SpaceMouseTeleop K).moving
      call.device = teleop.moving call.device := rfl
  rw [intervention, released]
  dsimp only
  rw [same]
  cases moves : teleop.moving call.device with
  | false => exact ⟨rfl, fun impossible => Bool.noConfusion impossible, rfl⟩
  | true =>
      rw [gripperIsOpen]
      cases known : teleop.gripperOpen with
      | none => exact ⟨rfl, fun _ => rfl, rfl⟩
      | some isOpen => exact ⟨rfl, fun _ => rfl, by rw [if_pos rfl, if_pos rfl]; rfl⟩

/-- The gripper's state as a takeover at `calls[i]` finds it: what is already known, or the
width reported at the first takeover. -/
def believedOpen (teleop : SpaceMouseTeleop K) (calls : List (TeleopCall K)) : Option Bool :=
  teleop.gripperOpen.or
    ((calls.find? fun call => teleop.moving call.device).map fun call => inferOpen call.width)

theorem believedOpen_cons (teleop : SpaceMouseTeleop K) (call : TeleopCall K)
    (rest : List (TeleopCall K)) :
    teleop.believedOpen (call :: rest) =
      if teleop.moving call.device then
        some (teleop.gripperOpen.getD (inferOpen call.width))
      else teleop.believedOpen rest := by
  rw [believedOpen, List.find?_cons]
  cases teleop.moving call.device with
  | false => rfl
  | true => cases teleop.gripperOpen <;> rfl

theorem interventions_channel {teleop : SpaceMouseTeleop K} {calls : List (TeleopCall K)}
    (unpressed : ∀ call ∈ calls, call.device.pressed teleop.gripperButton = false) {i : Nat}
    {action : TeleopAction K} (tookOver : (teleop.interventions calls)[i]? = some (action, true)) :
    ∃ isOpen, teleop.believedOpen calls = some isOpen ∧
      action.gripper = gripperChannel isOpen := by
  induction calls generalizing teleop i with
  | nil => cases tookOver
  | cons call rest ih =>
      have spec := intervention_unpressed (unpressed call (List.mem_cons_self ..))
      obtain ⟨intervened, channel, left⟩ := spec
      rw [interventions] at tookOver
      rw [believedOpen_cons]
      cases i with
      | zero =>
          have answer := Option.some.inj tookOver
          rw [answer] at intervened channel
          rw [← intervened, if_pos rfl]
          exact ⟨_, rfl, channel intervened.symm⟩
      | succ i =>
          have later : ∀ next ∈ rest, next.device.pressed
              (teleop.intervention call.device call.width call.policyAction).2.gripperButton =
                false := by
            intro next within
            rw [left]
            exact unpressed next (List.mem_cons_of_mem call within)
          obtain ⟨isOpen, believed, gripper⟩ := ih later tookOver
          refine ⟨isOpen, ?_, gripper⟩
          rw [← believed, left]
          cases teleop.moving call.device with
          | true => rfl
          | false => rfl

end SpaceMouseTeleop

/-- Without the gripper button every takeover commands the gripper state the robot reported
at the first one: open above the threshold, closed below it or where nothing was reported. -/
theorem takeover_channel {teleop : SpaceMouseTeleop K} (unset : teleop.gripperOpen = none)
    {calls : List (TeleopCall K)}
    (unpressed : ∀ call ∈ calls, call.device.pressed teleop.gripperButton = false) {i : Nat}
    {action : TeleopAction K} (tookOver : (teleop.interventions calls)[i]? = some (action, true)) :
    ∃ first, calls.find? (fun call => teleop.moving call.device) = some first ∧
      (∀ width, first.width = some width →
        action.gripper = if SpaceMouseTeleop.openThreshold < width then 1 else -1) ∧
      (first.width = none → action.gripper = -1) := by
  obtain ⟨isOpen, believed, gripper⟩ :=
    SpaceMouseTeleop.interventions_channel unpressed tookOver
  rw [SpaceMouseTeleop.believedOpen, unset, Option.none_or, Option.map_eq_some_iff] at believed
  obtain ⟨first, found, inferred⟩ := believed
  refine ⟨first, found, ?_, ?_⟩
  · intro width reported
    rw [gripper, ← inferred, reported, SpaceMouseTeleop.gripperChannel]
    simp only [SpaceMouseTeleop.inferOpen, decide_eq_true_eq]
  · intro unreported
    rw [gripper, ← inferred, unreported]
    rfl

noncomputable def pushed : SpaceMouseState ℝ := { translation := ⟨1, 0, 0⟩, buttons := [1, 0] }

noncomputable def openedBetween : List (TeleopCall ℝ) :=
  [⟨pushed, some (1 / 100), ⟨0, 0, -1⟩⟩, ⟨{ buttons := [0, 0] }, some (1 / 100), ⟨0, 0, 1⟩⟩,
    ⟨pushed, some (9 / 100), ⟨0, 0, 1⟩⟩]

theorem openedBetween_unpressed :
    ∀ call ∈ openedBetween,
      call.device.pressed ({} : SpaceMouseTeleop ℝ).gripperButton = false := by
  simp [openedBetween, pushed, SpaceMouseState.pressed]

theorem openedBetween_takeovers :
    (({} : SpaceMouseTeleop ℝ).interventions openedBetween).map
      (fun answer => (answer.1.gripper, answer.2)) = [(-1, true), (1, false), (-1, true)] := by
  norm_num [openedBetween, SpaceMouseTeleop.interventions, SpaceMouseTeleop.intervention,
    SpaceMouseTeleop.gripperFromButtons, SpaceMouseTeleop.moving, SpaceMouseTeleop.deadmanOk,
    SpaceMouseTeleop.gripperIsOpen, SpaceMouseTeleop.inferOpen, SpaceMouseTeleop.openThreshold,
    SpaceMouseTeleop.gripperChannel, SpaceMouseState.magnitude, SpaceMouseState.pressed, pushed]

theorem openedBetween_again :
    ∃ action : TeleopAction ℝ,
      (({} : SpaceMouseTeleop ℝ).interventions openedBetween)[2]? = some (action, true) ∧
        action.gripper = -1 := by
  have third := congrArg (fun answers => answers[2]?) openedBetween_takeovers
  rw [List.getElem?_map, List.getElem?_cons_succ, List.getElem?_cons_succ,
    List.getElem?_cons_zero, Option.map_eq_some_iff] at third
  obtain ⟨⟨action, tookOver⟩, answered, commanded⟩ := third
  have intervened : tookOver = true := (Prod.mk.inj commanded).2
  rw [intervened] at answered
  exact ⟨action, answered, (Prod.mk.inj commanded).1⟩

theorem takeover_channel_again :
    ∃ action : TeleopAction ℝ,
      (({} : SpaceMouseTeleop ℝ).interventions openedBetween)[2]? = some (action, true) ∧
        ∃ first, openedBetween.find? (fun call => ({} : SpaceMouseTeleop ℝ).moving call.device) =
            some first ∧
          (∀ width, first.width = some width →
            action.gripper = if SpaceMouseTeleop.openThreshold < width then 1 else -1) ∧
          (first.width = none → action.gripper = -1) := by
  obtain ⟨action, answered, _⟩ := openedBetween_again
  exact ⟨action, answered, takeover_channel rfl openedBetween_unpressed answered⟩

/-- The second takeover closes a gripper that the robot reports to be open. -/
theorem takeover_closes_open_gripper :
    (∀ call ∈ openedBetween,
        call.device.pressed ({} : SpaceMouseTeleop ℝ).gripperButton = false) ∧
      ∃ action : TeleopAction ℝ,
        (({} : SpaceMouseTeleop ℝ).interventions openedBetween)[2]? = some (action, true) ∧
          openedBetween[2]?.bind TeleopCall.width = some (9 / 100) ∧
          SpaceMouseTeleop.openThreshold < (9 / 100 : ℝ) ∧ action.gripper = -1 := by
  obtain ⟨action, answered, gripper⟩ := openedBetween_again
  refine ⟨openedBetween_unpressed, action, answered, rfl, ?_, gripper⟩
  norm_num [SpaceMouseTeleop.openThreshold]

end FlexivControl
