/-
How far a mode start gets before one of its calls raises.

The mode is recorded right after the switch, before the parameters are sent. A start that
fails at a parameter leaves a backend that reports the mode, and the parameter is missing.
-/

import FlexivControl.Backend.Rdk

namespace FlexivControl

open Rdk Script

variable {K : Type} [Scalar K]

structure RdkSide (K : Type) [Scalar K] where
  mode : ControlMode
  sent : List (RdkCommand K) := []
  refused : List (RdkCommand K) := []

namespace RdkSide

def take (side : RdkSide K) (c : RdkCommand K) : RdkSide K where
  mode := match c with
    | .switchMode mode => mode
    | .stop => .idle
    | _ => side.mode
  sent := side.sent ++ [c]
  refused := side.refused

def refuse (side : RdkSide K) (c : RdkCommand K) : RdkSide K :=
  { side with refused := side.refused ++ [c] }

def takeAll (side : RdkSide K) (commands : List (RdkCommand K)) : RdkSide K :=
  commands.foldl take side

/-- A command that raises has no effect. -/
def after (side : RdkSide K) (c : Call (rdkEffects K)) : RdkSide K :=
  match c with
  | ⟨.command command, .ok ()⟩ => side.take command
  | ⟨.command command, .error _⟩ => side.refuse command
  | _ => side

theorem takeAll_append (side : RdkSide K) (cs ds : List (RdkCommand K)) :
    side.takeAll (cs ++ ds) = (side.takeAll cs).takeAll ds := List.foldl_append

@[simp] theorem takeAll_sent (side : RdkSide K) (commands : List (RdkCommand K)) :
    (side.takeAll commands).sent = side.sent ++ commands := by
  induction commands generalizing side with
  | nil => exact (List.append_nil side.sent).symm
  | cons c commands ih =>
      rw [takeAll, List.foldl_cons]
      have taken : (side.take c).sent = side.sent ++ [c] := rfl
      refine (ih (side.take c)).trans ?_
      rw [taken, List.append_assoc, List.singleton_append]

@[simp] theorem takeAll_refused (side : RdkSide K) (commands : List (RdkCommand K)) :
    (side.takeAll commands).refused = side.refused := by
  induction commands generalizing side with
  | nil => rfl
  | cons c commands ih => exact ih (side.take c)

theorem takeAll_mode {commands : List (RdkCommand K)}
    (keeps : ∀ c ∈ commands, ∀ side : RdkSide K, (side.take c).mode = side.mode)
    (side : RdkSide K) : (side.takeAll commands).mode = side.mode := by
  induction commands generalizing side with
  | nil => rfl
  | cons c commands ih =>
      obtain ⟨first, others⟩ := List.forall_mem_cons.mp keeps
      exact (ih others (side.take c)).trans (first side)

end RdkSide

def rdkWatch : Monitor (rdkEffects K) (RdkSide K) where
  observe := RdkSide.after
  admits _ _ := True
  allows _ _ := True

/-- The robot reports the mode it has been switched to, and answers anything else. -/
def rdkRobot : Monitor (rdkEffects K) (RdkSide K) where
  observe := RdkSide.after
  admits side c := match c with
    | ⟨.mode, answer⟩ => answer = .ok side.mode
    | _ => True
  allows _ _ := True

theorem rdkRobot_admits_all : rdkWatch.Refines rdkRobot (Eq : RdkSide K → RdkSide K → Prop) := by
  intro side side' op same _
  subst same
  exact ⟨trivial, fun r _ => ⟨trivial, rfl⟩⟩

section Rules

variable {backend : FlexivRdkBackend K} {side : RdkSide K}

theorem wp_answer {α σ : Type} {m : Monitor (rdkEffects K) σ} {s : σ} (result : Except Exc α)
    (post : Except Exc α → FlexivRdkBackend K → σ → Prop) :
    wp m (answer result) post backend s ↔ post result backend s := by
  cases result <;> exact Iff.rfl

theorem wp_command (c : RdkCommand K)
    (post : Except Exc Unit → FlexivRdkBackend K → RdkSide K → Prop) :
    wp rdkWatch (command c) post backend side ↔
      post (.ok ()) backend (side.take c) ∧ ∀ e, post (.error e) backend (side.refuse c) := by
  rw [command, wp_bind, ask, wp_perform]
  constructor
  · intro kept
    refine ⟨(wp_answer (.ok ()) post).mp (kept.2 (.ok ()) trivial), ?_⟩
    intro e
    exact (wp_answer (.error e) post).mp (kept.2 (.error e) trivial)
  · intro kept
    refine ⟨trivial, ?_⟩
    intro result _
    rw [afterStep_ok, wp_answer]
    cases result with
    | ok _ => exact kept.1
    | error e => exact kept.2 e

end Rules

/-! ### The commands of a mode start -/

def RdkCommand.pastForce : RdkCommand K → Bool
  | .setForceControlAxis _ | .setForceControlFrame _ | .setNullSpacePosture _ => true
  | _ => false

namespace ModeParams

def forceSetters (forceControl : ForceControlParams K) : List (RdkCommand K) :=
  [.setForceControlAxis forceControl.enabledAxes,
    .setForceControlFrame (rdkCoord forceControl.frame)]

def cartesianSetters (params : ModeParams K) : List (RdkCommand K) :=
  (params.impedance.toList.map fun impedance =>
      .setCartesianImpedance impedance.stiffness impedance.dampingRatio) ++
    (params.maxContactWrench.toList.map .setMaxContactWrench ++
      (params.forceControl.toList.flatMap forceSetters ++
        params.nullspaceQ.toList.map .setNullSpacePosture))

def setters (params : ModeParams K) (mode : ControlMode) : List (RdkCommand K) :=
  if mode.isCartesian then params.cartesianSetters
  else params.jointImpedance.toList.map fun impedance =>
    .setJointImpedance impedance.stiffness impedance.dampingRatio

/-- What force control is remembered when the command `c` of a start has raised. -/
def forceAt (params : ModeParams K) (remembered : Option (ForceControlParams K))
    (c : RdkCommand K) : Option (ForceControlParams K) :=
  if c.pastForce then params.forceControl.or remembered else remembered

def forceAfter (params : ModeParams K) (mode : ControlMode)
    (remembered : Option (ForceControlParams K)) : Option (ForceControlParams K) :=
  if mode.isCartesian then params.forceControl.or remembered else none

theorem setters_cartesian (params : ModeParams K) {mode : ControlMode}
    (cartesian : mode.isCartesian = true) : params.setters mode = params.cartesianSetters :=
  if_pos cartesian

theorem setters_joint (params : ModeParams K) {mode : ControlMode}
    (joint : mode.isCartesian = false) :
    params.setters mode = params.jointImpedance.toList.map fun impedance =>
      .setJointImpedance impedance.stiffness impedance.dampingRatio :=
  if_neg (ne_true_of_eq_false joint)

end ModeParams

namespace FlexivRdkBackend

/-- The script sends these commands in order until one is refused; it takes the remembered
force control from `before` to `after`, by way of `remembered c` if `c` is refused. -/
def Sends (x : RdkM K Unit) (commands : List (RdkCommand K))
    (remembered : RdkCommand K → Option (ForceControlParams K))
    (before after : Option (ForceControlParams K)) : Prop :=
  ∀ backend side, backend.forceControl = before →
    wp rdkWatch x (fun out backend' side' => match out with
      | .ok () =>
          backend' = { backend with forceControl := after } ∧ side' = side.takeAll commands
      | .error _ => ∃ done c rest, commands = done ++ c :: rest ∧
          backend' = { backend with forceControl := remembered c } ∧
          side' = (side.takeAll done).refuse c) backend side

namespace Sends

variable {x : RdkM K Unit} {y : Unit → RdkM K Unit} {commands more : List (RdkCommand K)}
  {remembered : RdkCommand K → Option (ForceControlParams K)}
  {first second third : Option (ForceControlParams K)}

theorem skip : Sends (pure ()) [] remembered first first := by
  intro backend side here
  exact ⟨by rw [← here], rfl⟩

theorem command {c : RdkCommand K} (kept : remembered c = first) :
    Sends (Rdk.command c) [c] remembered first first := by
  intro backend side here
  rw [wp_command]
  refine ⟨⟨by rw [← here], rfl⟩, ?_⟩
  intro e
  exact ⟨[], c, [], rfl, by rw [kept, ← here], rfl⟩

theorem bind (begins : Sends x commands remembered first second)
    (goes_on : Sends (y ()) more remembered second third) :
    Sends (x >>= y) (commands ++ more) remembered first third := by
  intro backend side here
  rw [wp_bind]
  apply wp_mono (begins backend side here)
  intro out backend' side' reached
  cases out with
  | error e =>
      obtain ⟨done, c, rest, split, left, at_c⟩ := reached
      refine ⟨done, c, rest ++ more, ?_, left, at_c⟩
      rw [split, List.append_assoc, List.cons_append]
  | ok a =>
      obtain ⟨left, took⟩ := reached
      have there : backend'.forceControl = second := by rw [left]
      rw [afterStep_ok]
      apply wp_mono (goes_on backend' side' there)
      intro out backend'' side'' reached
      cases out with
      | error e =>
          obtain ⟨done, c, rest, split, left', at_c⟩ := reached
          refine ⟨commands ++ done, c, rest, ?_, ?_, ?_⟩
          · rw [split, List.append_assoc]
          · rw [left', left]
          · rw [at_c, took, RdkSide.takeAll_append]
      | ok a =>
          obtain ⟨left', took'⟩ := reached
          refine ⟨?_, ?_⟩
          · rw [left', left]
          · rw [took', took, RdkSide.takeAll_append]

theorem whenGiven {α : Type} {param : Option α} {send : α → RdkM K Unit}
    {sends : α → List (RdkCommand K)}
    (given : ∀ a, param = some a → Sends (send a) (sends a) remembered first second)
    (missing : param = none → first = second) :
    Sends (FlexivRdkBackend.whenGiven param send) (param.toList.flatMap sends) remembered first
      second := by
  cases param with
  | none =>
      rw [← missing rfl]
      exact skip
  | some a =>
      rw [Option.toList_some, List.flatMap_singleton]
      exact given a rfl

theorem commandGiven {α : Type} {param : Option α} {setter : α → RdkCommand K}
    (kept : ∀ a, remembered (setter a) = first) :
    Sends (FlexivRdkBackend.whenGiven param fun a => Rdk.command (setter a))
      (param.toList.map setter) remembered first first := by
  cases param with
  | none => exact skip
  | some a => exact command (kept a)

theorem remember {forceControl : ForceControlParams K}
    (next : Sends (y ()) commands remembered (some forceControl) second) :
    Sends (modify (fun backend => { backend with forceControl := some forceControl }) >>= y)
      commands remembered first second := by
  intro backend side _
  rw [wp_bind, wp_modify, afterStep_ok]
  exact next { backend with forceControl := some forceControl } side rfl

end Sends

section Setters

variable {params : ModeParams K} {remembered : Option (ForceControlParams K)}

theorem sends_startForceControl {forceControl : ForceControlParams K}
    (given : params.forceControl = some forceControl) :
    Sends (startForceControl forceControl) (ModeParams.forceSetters forceControl)
      (params.forceAt remembered) remembered (params.forceControl.or remembered) := by
  rw [given, Option.some_or]
  have recorded (c : RdkCommand K) (past : c.pastForce = true) :
      params.forceAt remembered c = some forceControl := by
    rw [ModeParams.forceAt, if_pos past, given, Option.some_or]
  exact .remember (.bind (.command (recorded _ rfl)) (.command (recorded _ rfl)))

theorem sends_cartesian (params : ModeParams K)
    (remembered : Option (ForceControlParams K)) :
    Sends (do
        whenGiven params.impedance fun impedance =>
          Rdk.command (.setCartesianImpedance impedance.stiffness impedance.dampingRatio)
        whenGiven params.maxContactWrench fun wrench =>
          Rdk.command (.setMaxContactWrench wrench)
        whenGiven params.forceControl startForceControl
        whenGiven params.nullspaceQ fun q => Rdk.command (.setNullSpacePosture q))
      params.cartesianSetters (params.forceAt remembered) remembered
      (params.forceControl.or remembered) := by
  refine .bind (.commandGiven fun impedance => rfl) (.bind (.commandGiven fun wrench => rfl)
    (.bind (.whenGiven ?force ?unforced) (.commandGiven fun q => rfl)))
  case force => exact fun forceControl given => sends_startForceControl given
  case unforced =>
    intro missing
    rw [missing, Option.none_or]

/-- The part of any other mode start after the switch, before force control is forgotten. -/
theorem sends_joint (params : ModeParams K) (remembered : Option (ForceControlParams K)) :
    Sends (whenGiven params.jointImpedance fun impedance =>
        Rdk.command (.setJointImpedance impedance.stiffness impedance.dampingRatio))
      (params.jointImpedance.toList.map fun impedance =>
        .setJointImpedance impedance.stiffness impedance.dampingRatio)
      (params.forceAt remembered) remembered remembered :=
  .commandGiven fun _ => rfl

end Setters

/-- How `set_mode` ends: barred before it calls the robot, at the switch, at one of the
setters, or with all of them sent. -/
inductive ModeStart (mode : ControlMode) (params : ModeParams K) (backend : FlexivRdkBackend K)
    (side : RdkSide K) : Except Exc Unit → FlexivRdkBackend K → RdkSide K → Prop where
  | barred (e : Exc) : ModeStart mode params backend side (.error e) backend side
  | unswitched (e : Exc) :
      ModeStart mode params backend side (.error e) backend (side.refuse (.switchMode mode))
  | halfway (e : Exc) {done rest : List (RdkCommand K)} {c : RdkCommand K}
      (split : params.setters mode = done ++ c :: rest) :
      ModeStart mode params backend side (.error e)
        { backend with mode := mode, forceControl := params.forceAt backend.forceControl c }
        (((side.take (.switchMode mode)).takeAll done).refuse c)
  | started :
      ModeStart mode params backend side (.ok ())
        { backend with
          mode := mode
          forceControl := params.forceAfter mode backend.forceControl }
        ((side.take (.switchMode mode)).takeAll (params.setters mode))

theorem rdkMode_ok {backend : FlexivRdkBackend K} {mode target : ControlMode}
    (named : rdkMode backend mode = .ok target) : target = mode := by
  unfold rdkMode at named
  by_cases exposed : backend.exposes mode = true
  · rw [if_pos exposed] at named
    exact (Except.ok.inj named).symm
  · rw [if_neg exposed] at named
    cases named

theorem setMode_spec (mode : ControlMode) (params : ModeParams K)
    (backend : FlexivRdkBackend K) (side : RdkSide K) :
    wp rdkWatch (setMode mode params) (ModeStart mode params backend side) backend side := by
  unfold setMode
  rw [wp_bind, wp_get, afterStep_ok]
  by_cases gated : mode = .rtJointTorque ∧ backend.allowTorque = false
  · rw [if_pos gated]
    exact .barred _
  · rw [if_neg gated]
    dsimp only
    rw [wp_bind, wp_answer]
    cases named : rdkMode backend mode with
    | error e => exact .barred e
    | ok target =>
        obtain rfl := rdkMode_ok named
        rw [afterStep_ok, wp_bind, wp_command]
        refine ⟨?_, fun e => .unswitched e⟩
        rw [afterStep_ok, wp_bind, wp_modify, afterStep_ok]
        cases cartesian : target.isCartesian with
        | true =>
            rw [if_pos rfl]
            have all := params.setters_cartesian cartesian
            apply wp_mono (sends_cartesian params backend.forceControl
              { backend with mode := target } _ rfl)
            intro out backend' side' reached
            cases out with
            | ok a =>
                obtain ⟨left, took⟩ := reached
                have remembered : params.forceAfter target backend.forceControl =
                    params.forceControl.or backend.forceControl := if_pos cartesian
                rw [left, took, ← all, ← remembered]
                exact .started
            | error e =>
                obtain ⟨done, c, rest, split, left, at_c⟩ := reached
                rw [left, at_c]
                exact .halfway e (all.trans split)
        | false =>
            rw [if_neg Bool.false_ne_true]
            have all := params.setters_joint cartesian
            rw [wp_bind]
            apply wp_mono (sends_joint params backend.forceControl
              { backend with mode := target } _ rfl)
            intro out backend' side' reached
            cases out with
            | ok a =>
                obtain ⟨left, took⟩ := reached
                have forgotten : params.forceAfter target backend.forceControl = none :=
                  if_neg (ne_true_of_eq_false cartesian)
                rw [left, took, ← all, afterStep_ok, wp_modify, ← forgotten]
                exact .started
            | error e =>
                obtain ⟨done, c, rest, split, left, at_c⟩ := reached
                rw [left, at_c]
                exact .halfway e (all.trans split)

theorem snapshot_spec (backend : FlexivRdkBackend K) (side : RdkSide K) :
    wp rdkRobot snapshot
      (fun out _ _ => ∀ state, out = .ok state → state.controlMode = backend.mode)
      backend side := by
  unfold snapshot
  rw [wp_bind, ask, wp_perform]
  refine ⟨trivial, fun states _ => ?_⟩
  rw [afterStep_ok, wp_bind, wp_answer]
  cases states with
  | error e =>
      intro state impossible
      cases impossible
  | ok s =>
      rw [afterStep_ok, wp_bind, inFault, wp_bind, ask, wp_perform]
      refine ⟨trivial, fun fault _ => ?_⟩
      rw [afterStep_ok]
      cases fault with
      | error e =>
          rw [wp_pure, afterStep_ok, wp_bind, ask, wp_perform]
          refine ⟨trivial, fun stamp _ => ?_⟩
          intro state reported
          cases reported
          rfl
      | ok faulted =>
          rw [wp_pure, afterStep_ok, wp_bind, ask, wp_perform]
          refine ⟨trivial, fun stamp _ => ?_⟩
          intro state reported
          cases reported
          rfl

theorem readState_spec (backend : FlexivRdkBackend K) (side : RdkSide K) :
    wp rdkRobot readState
      (fun out _ _ => ∀ state, out = .ok state →
        state.controlMode = backend.syncedMode (.ok side.mode)) backend side := by
  unfold readState
  rw [wp_bind, wp_get, afterStep_ok]
  by_cases moved : backend.mode ≠ .idle
  · rw [if_pos moved, wp_bind, ask, wp_perform]
    refine ⟨trivial, fun robotMode reported => ?_⟩
    have current : robotMode = .ok side.mode := reported
    rw [afterStep_ok, wp_bind, wp_modify, afterStep_ok, current]
    exact snapshot_spec { backend with mode := backend.syncedMode (.ok side.mode) } _
  · rw [if_neg moved]
    have idle : backend.syncedMode (.ok side.mode) = backend.mode := by
      unfold syncedMode
      rw [if_pos (not_not.mp moved), not_not.mp moved]
    rw [idle]
    exact snapshot_spec backend side

end FlexivRdkBackend

namespace ModeParams

/-- Every parameter of a Cartesian mode start that was given has been sent. -/
structure AllSent (params : ModeParams K) (sent : List (RdkCommand K)) : Prop where
  impedance : ∀ impedance, params.impedance = some impedance →
    .setCartesianImpedance impedance.stiffness impedance.dampingRatio ∈ sent
  maxContactWrench : ∀ wrench, params.maxContactWrench = some wrench →
    .setMaxContactWrench wrench ∈ sent
  forceControl : ∀ forceControl, params.forceControl = some forceControl →
    .setForceControlAxis forceControl.enabledAxes ∈ sent ∧
      .setForceControlFrame (rdkCoord forceControl.frame) ∈ sent
  nullspaceQ : ∀ q, params.nullspaceQ = some q → .setNullSpacePosture q ∈ sent

structure NoneGiven (params : ModeParams K) : Prop where
  impedance : params.impedance = none
  maxContactWrench : params.maxContactWrench = none
  forceControl : params.forceControl = none
  nullspaceQ : params.nullspaceQ = none

variable {params : ModeParams K}

theorem mem_cartesianSetters {c : RdkCommand K} (setter : c ∈ params.cartesianSetters) :
    (∃ impedance, params.impedance = some impedance ∧
        .setCartesianImpedance impedance.stiffness impedance.dampingRatio = c) ∨
      (∃ wrench, params.maxContactWrench = some wrench ∧ .setMaxContactWrench wrench = c) ∨
      (∃ forceControl, params.forceControl = some forceControl ∧
        c ∈ forceSetters forceControl) ∨
      ∃ q, params.nullspaceQ = some q ∧ .setNullSpacePosture q = c := by
  simpa only [cartesianSetters, List.mem_append, List.mem_map, List.mem_flatMap,
    Option.mem_toList, Option.mem_def] using setter

theorem allSent_iff {sent : List (RdkCommand K)} :
    params.AllSent sent ↔ ∀ c ∈ params.cartesianSetters, c ∈ sent := by
  constructor
  · intro all c setter
    rcases mem_cartesianSetters setter with ⟨impedance, given, rfl⟩ | ⟨wrench, given, rfl⟩ |
      ⟨forceControl, given, setter⟩ | ⟨q, given, rfl⟩
    · exact all.impedance impedance given
    · exact all.maxContactWrench wrench given
    · rcases List.mem_pair.mp setter with rfl | rfl
      · exact (all.forceControl forceControl given).1
      · exact (all.forceControl forceControl given).2
    · exact all.nullspaceQ q given
  · intro all
    refine ⟨fun impedance given => ?_, fun wrench given => ?_, fun forceControl given => ?_,
      fun q given => ?_⟩
    · exact all _ (by simp [cartesianSetters, given])
    · exact all _ (by simp [cartesianSetters, given])
    · exact ⟨all _ (by simp [cartesianSetters, forceSetters, given]),
        all _ (by simp [cartesianSetters, forceSetters, given])⟩
    · exact all _ (by simp [cartesianSetters, given])

theorem cartesianSetters_eq_nil : params.cartesianSetters = [] ↔ params.NoneGiven := by
  constructor
  · intro none
    simp only [cartesianSetters, List.append_eq_nil_iff, List.map_eq_nil_iff,
      Option.toList_eq_nil_iff, List.flatMap_eq_nil_iff, Option.mem_toList] at none
    refine ⟨none.1, none.2.1, ?_, none.2.2.2⟩
    cases given : params.forceControl with
    | none => rfl
    | some forceControl => exact absurd (none.2.2.1 forceControl given) (List.cons_ne_nil _ _)
  · intro none
    rw [cartesianSetters, none.impedance, none.maxContactWrench, none.forceControl,
      none.nullspaceQ]
    rfl

theorem take_setter_mode {c : RdkCommand K} (setter : c ∈ params.cartesianSetters)
    (side : RdkSide K) : (side.take c).mode = side.mode := by
  rcases mem_cartesianSetters setter with ⟨impedance, _, rfl⟩ | ⟨wrench, _, rfl⟩ |
    ⟨forceControl, _, force⟩ | ⟨q, _, rfl⟩
  · rfl
  · rfl
  · rcases List.mem_pair.mp force with rfl | rfl <;> rfl
  · rfl

theorem switchMode_not_setter (params : ModeParams K) (mode : ControlMode) :
    .switchMode mode ∉ params.cartesianSetters := by
  simp [cartesianSetters, forceSetters]

theorem cartesianSetters_nodup (params : ModeParams K) : params.cartesianSetters.Nodup := by
  unfold cartesianSetters forceSetters
  cases params.impedance <;> cases params.maxContactWrench <;> cases params.forceControl <;>
    cases params.nullspaceQ <;> simp

end ModeParams

theorem ControlMode.ne_idle_of_cartesian {mode : ControlMode}
    (cartesian : mode.isCartesian = true) : mode ≠ .idle := by
  intro idle
  rw [idle] at cartesian
  cases cartesian

theorem FlexivRdkBackend.syncedMode_switched {backend : FlexivRdkBackend K} {mode : ControlMode}
    (cartesian : mode.isCartesian = true) (recorded : backend.mode = mode) :
    backend.syncedMode (.ok mode) = mode := by
  have moving := ControlMode.ne_idle_of_cartesian cartesian
  unfold syncedMode
  rw [recorded, if_neg moving]
  cases named : rdkMode backend .idle with
  | error e => rfl
  | ok idleMode =>
      obtain rfl := rdkMode_ok named
      exact if_neg moving

/-- A Cartesian mode start that raised, and the state read after it: either the mode
reported is not Cartesian or all parameters have been sent, if and only if no setter was
refused and, before, either no Cartesian mode was reported or no parameter was given. -/
theorem half_started_mode_iff {mode : ControlMode} {params : ModeParams K}
    {backend backend' backend'' : FlexivRdkBackend K} {robotMode : ControlMode}
    {calls reads : List (Call (rdkEffects K))} {e : Exc} {state : RobotState K}
    (cartesian : mode.isCartesian = true)
    (raised : Trace (FlexivRdkBackend.setMode mode params backend) calls
      (.done (.error e, backend')))
    (read : Trace (FlexivRdkBackend.readState backend') reads (.done (.ok state, backend'')))
    (answered : rdkRobot.Admitted { mode := robotMode } (calls ++ reads)) :
    (state.controlMode.isCartesian = false ∨
        params.AllSent (rdkRobot.run { mode := robotMode } calls).sent) ↔
      (∀ c ∈ params.cartesianSetters, c ∉ (rdkRobot.run { mode := robotMode } calls).refused) ∧
        ((backend.syncedMode (.ok robotMode)).isCartesian = false ∨ params.NoneGiven) := by
  rw [Monitor.admitted_append] at answered
  have kept := rdkRobot_admits_all.wp rfl (FlexivRdkBackend.setMode_spec mode params backend
    { mode := robotMode })
  obtain ⟨side, same, ended⟩ := (Program.wp_sound kept raised answered.1).2
  have reported := (Program.wp_sound (FlexivRdkBackend.readState_spec backend'
    (rdkRobot.run { mode := robotMode } calls)) read answered.2).2 state rfl
  rw [ModeParams.allSent_iff, ← ModeParams.cartesianSetters_eq_nil, reported, ← same]
  -- Nothing has been sent where the switch was not made: only the parameters given decide.
  have unswitched (before : Bool) :
      (before = false ∨ ∀ c ∈ params.cartesianSetters, c ∈ ([] : List (RdkCommand K))) ↔
        before = false ∨ params.cartesianSetters = [] :=
    or_congr_right List.subset_nil
  cases ended with
  | barred e =>
      rw [unswitched]
      exact (and_iff_right fun c _ => List.not_mem_nil).symm
  | unswitched e =>
      have only_switch : ∀ c ∈ params.cartesianSetters, c ∉ [RdkCommand.switchMode mode] := by
        intro c setter refused
        rw [List.mem_singleton.mp refused] at setter
        exact params.switchMode_not_setter mode setter
      refine (unswitched _).trans ?_
      exact (and_iff_right only_switch).symm
  | @halfway e done rest c split =>
      rw [params.setters_cartesian cartesian] at split
      have member : c ∈ params.cartesianSetters := by
        rw [split]
        exact List.mem_append_right done (List.mem_cons_self ..)
      have missing : c ∉ done := by
        have nodup := params.cartesianSetters_nodup
        rw [split, List.nodup_append] at nodup
        intro sent
        exact nodup.2.2 c sent c (List.mem_cons_self ..) rfl
      have switched : (((({ mode := robotMode } : RdkSide K).take
          (.switchMode mode)).takeAll done).refuse c).mode = mode := by
        refine (RdkSide.takeAll_mode (fun d sent => ?_) _).trans rfl
        apply params.take_setter_mode
        rw [split]
        exact List.mem_append_left _ sent
      rw [switched, FlexivRdkBackend.syncedMode_switched cartesian rfl]
      constructor
      · intro excused
        rcases excused with elsewhere | all
        · exact absurd (cartesian.symm.trans elsewhere) Bool.noConfusion
        · have sent := all c member
          rw [RdkSide.refuse, RdkSide.takeAll_sent] at sent
          rcases List.mem_cons.mp sent with switch | sent
          · rw [switch] at member
            exact absurd member (params.switchMode_not_setter mode)
          · exact absurd sent missing
      · intro unrefused
        exact absurd (List.mem_append_right _ (List.mem_singleton_self c))
          (unrefused.1 c member)

noncomputable def guardedStart : ModeParams ℝ := { maxContactWrench := some fun _ => 5 }

def rdkRefusal : Exc := ⟨.runtimeError, "refused"⟩

noncomputable def atRest : RdkStates ℝ where
  q := []
  dq := []
  tau := []
  tcpPose := Pose.identity
  tcpVel := fun _ => 0
  wrench := fun _ => 0

noncomputable def switchRefused : List (Call (rdkEffects ℝ)) :=
  [⟨.command (.switchMode .nrtCartesianMotionForce), .error rdkRefusal⟩]

noncomputable def readIdle : List (Call (rdkEffects ℝ)) :=
  [⟨.states, .ok atRest⟩, ⟨.fault, .ok false⟩, ⟨.time, (0 : ℝ)⟩]

noncomputable def limitRefused : List (Call (rdkEffects ℝ)) :=
  [⟨.command (.switchMode .nrtCartesianMotionForce), .ok ()⟩,
    ⟨.command (.setMaxContactWrench fun _ => 5), .error rdkRefusal⟩]

noncomputable def readMoving : List (Call (rdkEffects ℝ)) :=
  ⟨.mode, .ok .nrtCartesianMotionForce⟩ :: readIdle

theorem half_started_mode_iff_switchRefused :
    ∃ (backend' backend'' : FlexivRdkBackend ℝ) (state : RobotState ℝ),
      Trace (FlexivRdkBackend.setMode .nrtCartesianMotionForce guardedStart {}) switchRefused
        (.done (.error rdkRefusal, backend')) ∧
      Trace (FlexivRdkBackend.readState backend') readIdle (.done (.ok state, backend'')) ∧
      (state.controlMode.isCartesian = false ∨
        guardedStart.AllSent (rdkRobot.run { mode := .idle } switchRefused).sent) := by
  have raised : Trace (FlexivRdkBackend.setMode .nrtCartesianMotionForce guardedStart {})
      switchRefused (.done (.error rdkRefusal, {})) := .cons (.nil _)
  obtain ⟨state, read⟩ : ∃ state, Trace (FlexivRdkBackend.readState {}) readIdle
      (.done (.ok state, {})) := ⟨_, .cons (.cons (.cons (.nil _)))⟩
  refine ⟨_, _, state, raised, read, ?_⟩
  apply (half_started_mode_iff rfl raised read ⟨trivial, trivial, trivial, trivial, trivial⟩).mpr
  refine ⟨?_, Or.inl rfl⟩
  intro c setter refused
  have only_switch : c = .switchMode .nrtCartesianMotionForce := List.mem_singleton.mp refused
  rw [only_switch] at setter
  exact guardedStart.switchMode_not_setter _ setter

theorem unarmed_mode_reported :
    ∃ (backend' backend'' : FlexivRdkBackend ℝ) (state : RobotState ℝ),
      Trace (FlexivRdkBackend.setMode .nrtCartesianMotionForce guardedStart {}) limitRefused
        (.done (.error rdkRefusal, backend')) ∧
      Trace (FlexivRdkBackend.readState backend') readMoving (.done (.ok state, backend'')) ∧
      rdkRobot.Admitted { mode := .idle } (limitRefused ++ readMoving) ∧
      state.controlMode.isCartesian = true ∧
      ¬ guardedStart.AllSent (rdkRobot.run { mode := .idle } limitRefused).sent := by
  refine ⟨{ mode := .nrtCartesianMotionForce }, { mode := .nrtCartesianMotionForce }, _,
    .cons (.cons (.nil _)), .cons (.cons (.cons (.cons (.nil _)))), ?_, rfl, ?_⟩
  · exact ⟨trivial, trivial, rfl, trivial, trivial, trivial, trivial⟩
  · intro all
    have sent := all.maxContactWrench (fun _ => 5) rfl
    have only_switch : (rdkRobot.run { mode := .idle } limitRefused).sent =
        [RdkCommand.switchMode .nrtCartesianMotionForce] := rfl
    rw [only_switch] at sent
    cases List.mem_singleton.mp sent

end FlexivControl
