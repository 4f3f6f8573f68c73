/-
Safety profiles from and to their nested configuration.

Most fields of a configuration are taken as they come, whatever they hold, so a profile
read from one is its own record: values where nothing is converted, sequences for the box,
arrays of any shape for the limits.
-/

import FlexivControl.Core.Safety
import FlexivControl.Wire.Codec

namespace FlexivControl

def WorkspaceAction.value : WorkspaceAction → String
  | .clip => "clip"
  | .reject => "reject"

abbrev ShapedArray (K : Type) := { a : NdArray K // a.WellShaped }

structure ConfigProfile (K : Type) where
  name : Json K
  wsX : List (Json K)
  wsY : List (Json K)
  wsZ : List (Json K)
  workspaceAction : WorkspaceAction
  maxLinearSpeed : Json K
  maxAngularSpeed : Json K
  maxPoseJumpLinear : Json K
  maxPoseJumpAngular : Json K
  maxLinearAccel : Json K
  jointMarginRad : Json K
  maxJointSpeedScale : Json K
  jointLower : ShapedArray K
  jointUpper : ShapedArray K
  maxContactWrench : ShapedArray K
  maxWrenchAllowance : ShapedArray K
  commandTimeoutMs : Json K
  stateTimeoutMs : Json K
  stopOnStaleCommand : Json K
  stopOnStateStale : Json K
  holdTimeoutMs : Json K

variable {K : Type} [Scalar K]

def shapedVector (xs : List K) : ShapedArray K :=
  ⟨NdArray.vector xs, NdArray.vector_wellShaped xs⟩

/-- A profile of the controller as the record a configuration gives. -/
def SafetyProfile.config (p : SafetyProfile K) : ConfigProfile K where
  name := .str p.name
  wsX := [.num p.wsX.1, .num p.wsX.2]
  wsY := [.num p.wsY.1, .num p.wsY.2]
  wsZ := [.num p.wsZ.1, .num p.wsZ.2]
  workspaceAction := p.workspaceAction
  maxLinearSpeed := .num p.maxLinearSpeed
  maxAngularSpeed := .num p.maxAngularSpeed
  maxPoseJumpLinear := .num p.maxPoseJumpLinear
  maxPoseJumpAngular := .num p.maxPoseJumpAngular
  maxLinearAccel := encodeOptional .num p.maxLinearAccel
  jointMarginRad := .num p.jointMarginRad
  maxJointSpeedScale := .num p.maxJointSpeedScale
  jointLower := shapedVector p.jointLower
  jointUpper := shapedVector p.jointUpper
  maxContactWrench := shapedVector (wrenchList p.maxContactWrench)
  maxWrenchAllowance := shapedVector (wrenchList p.maxWrenchAllowance)
  commandTimeoutMs := .num p.commandTimeoutMs
  stateTimeoutMs := .num p.stateTimeoutMs
  stopOnStaleCommand := .bool p.stopOnStaleCommand
  stopOnStateStale := .bool p.stopOnStateStale
  holdTimeoutMs := encodeOptional .num p.holdTimeoutMs

/-- `name in d`. -/
def contains (d : Json K) (name : String) : Except Exc Bool :=
  match d with
  | .obj fields => .ok (Json.field? fields name).isSome
  | .arr items => .ok (items.any fun value => match value with
      | .str text => text = name
      | _ => false)
  | .str text => .ok (decide (name.toList <:+: text.toList))
  | other => .error (typeError ("argument of type '" ++ typeName other ++ "' is not iterable"))

def tupleField (d : Json K) (name : String) (kept : List (Json K)) :
    Except Exc (List (Json K)) := do
  if ← contains d name then iterate (← item d name) else pure kept

def shapedArray (lang : Language K) (json : Json K) : Except Exc (ShapedArray K) :=
  match read : floatArray lang json with
  | .ok a => .ok ⟨a, asArray_wellShaped read⟩
  | .error e => .error e

def arrayField (lang : Language K) (d : Json K) (name : String) (kept : ShapedArray K) :
    Except Exc (ShapedArray K) := do
  if ← contains d name then shapedArray lang (← item d name) else pure kept

def actionField (lang : Language K) (ws : Json K) (kept : WorkspaceAction) :
    Except Exc WorkspaceAction := do
  if ← contains ws "action" then
    let action := lang.lower (toText lang (← item ws "action"))
    if action = "clip" then pure .clip
    else if action = "reject" then pure .reject
    else throw ⟨.valueError,
      "workspace.action must be 'clip' or 'reject', got " ++ lang.repr (.str action)⟩
  else pure kept

def defaultProfile : SafetyProfile K := {}

/-- `SafetyProfile.from_dict`. -/
def profileFromDict (lang : Language K) (d : Json K) : Except Exc (ConfigProfile K) := do
  let p := (defaultProfile (K := K)).config
  let name ← getOr d "name" (.str "unnamed")
  let ws ← getOr d "workspace" (.obj [])
  let wsX ← tupleField ws "x" p.wsX
  let wsY ← tupleField ws "y" p.wsY
  let wsZ ← tupleField ws "z" p.wsZ
  let workspaceAction ← actionField lang ws p.workspaceAction
  let tl ← getOr d "tcp_limits" (.obj [])
  let maxLinearSpeed ← getOr tl "max_linear_speed" p.maxLinearSpeed
  let maxAngularSpeed ← getOr tl "max_angular_speed" p.maxAngularSpeed
  let maxPoseJumpLinear ← getOr tl "max_pose_jump_linear" p.maxPoseJumpLinear
  let maxPoseJumpAngular ← getOr tl "max_pose_jump_angular" p.maxPoseJumpAngular
  let maxLinearAccel ← getOr tl "max_linear_accel" p.maxLinearAccel
  let jl ← getOr d "joint_limits" (.obj [])
  let jointMarginRad ← getOr jl "margin_rad" p.jointMarginRad
  let maxJointSpeedScale ← getOr jl "max_joint_speed_scale" p.maxJointSpeedScale
  let jointLower ← arrayField lang jl "lower" p.jointLower
  let jointUpper ← arrayField lang jl "upper" p.jointUpper
  let ct ← getOr d "contact" (.obj [])
  let maxContactWrench ← arrayField lang ct "max_wrench" p.maxContactWrench
  let maxWrenchAllowance ← arrayField lang ct "max_allowance" p.maxWrenchAllowance
  let wd ← getOr d "watchdog" (.obj [])
  let commandTimeoutMs ← getOr wd "command_timeout_ms" p.commandTimeoutMs
  let stateTimeoutMs ← getOr wd "state_timeout_ms" p.stateTimeoutMs
  let stopOnStaleCommand ← getOr wd "stop_on_stale_command" p.stopOnStaleCommand
  let stopOnStateStale ← getOr wd "stop_on_state_stale" p.stopOnStateStale
  let holdTimeoutMs ← getOr wd "hold_timeout_ms" p.holdTimeoutMs
  pure
    { name, wsX, wsY, wsZ, workspaceAction, maxLinearSpeed, maxAngularSpeed, maxPoseJumpLinear,
      maxPoseJumpAngular, maxLinearAccel, jointMarginRad, maxJointSpeedScale, jointLower,
      jointUpper, maxContactWrench, maxWrenchAllowance, commandTimeoutMs, stateTimeoutMs,
      stopOnStaleCommand, stopOnStateStale, holdTimeoutMs }

def ShapedArray.tolist (a : ShapedArray K) : Json K := a.1.toJson .num

def ConfigProfile.toConfigDict (p : ConfigProfile K) : Json K :=
  .obj
    [("name", p.name),
      ("workspace", .obj
        [("x", .arr p.wsX), ("y", .arr p.wsY), ("z", .arr p.wsZ),
          ("action", .str p.workspaceAction.value)]),
      ("tcp_limits", .obj
        [("max_linear_speed", p.maxLinearSpeed), ("max_angular_speed", p.maxAngularSpeed),
          ("max_pose_jump_linear", p.maxPoseJumpLinear),
          ("max_pose_jump_angular", p.maxPoseJumpAngular),
          ("max_linear_accel", p.maxLinearAccel)]),
      ("joint_limits", .obj
        [("margin_rad", p.jointMarginRad), ("max_joint_speed_scale", p.maxJointSpeedScale),
          ("lower", p.jointLower.tolist), ("upper", p.jointUpper.tolist)]),
      ("contact", .obj
        [("max_wrench", p.maxContactWrench.tolist),
          ("max_allowance", p.maxWrenchAllowance.tolist)]),
      ("watchdog", .obj
        [("command_timeout_ms", p.commandTimeoutMs), ("state_timeout_ms", p.stateTimeoutMs),
          ("stop_on_stale_command", p.stopOnStaleCommand),
          ("stop_on_state_stale", p.stopOnStateStale), ("hold_timeout_ms", p.holdTimeoutMs)])]

omit [Scalar K] in
theorem tupleField_found {fields : List (String × Json K)} {name : String}
    {items : List (Json K)} (kept : List (Json K))
    (found : Json.field? fields name = some (.arr items)) :
    tupleField (.obj fields) name kept = .ok items := by
  simp [tupleField, contains, item, found, iterate]

omit [Scalar K] in
theorem actionField_found (lang : Language K) {fields : List (String × Json K)}
    (action kept : WorkspaceAction)
    (found : Json.field? fields "action" = some (.str action.value)) :
    actionField lang (.obj fields) kept = .ok action := by
  cases action with
  | clip =>
      simp [actionField, contains, item, found, toText, WorkspaceAction.value, lang.lower_clip]
      rfl
  | reject =>
      simp [actionField, contains, item, found, toText, WorkspaceAction.value, lang.lower_reject]
      rfl

variable (lang : Language K)

theorem shapedArray_tolist (a : ShapedArray K) : shapedArray lang a.tolist = .ok a := by
  have back : floatArray lang a.tolist = .ok a.1 := floatArray_toJson lang a.2
  unfold shapedArray
  split
  · rename_i b read
    have same := Except.ok.inj (read.symm.trans back)
    exact congrArg Except.ok (Subtype.ext same)
  · rename_i e read
    cases read.symm.trans back

theorem arrayField_found {fields : List (String × Json K)} {name : String}
    (a kept : ShapedArray K) (found : Json.field? fields name = some a.tolist) :
    arrayField lang (.obj fields) name kept = .ok a := by
  simp [arrayField, contains, item, found, shapedArray_tolist]

theorem profile_round_trip (p : ConfigProfile K) :
    profileFromDict lang p.toConfigDict = .ok p := by
  simp [profileFromDict, ConfigProfile.toConfigDict, tupleField_found,
    actionField_found lang p.workspaceAction, arrayField_found lang p.jointLower,
    arrayField_found lang p.jointUpper, arrayField_found lang p.maxContactWrench,
    arrayField_found lang p.maxWrenchAllowance]

end FlexivControl
