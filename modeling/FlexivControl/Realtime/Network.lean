/-
The daemon's network thread, from a line to its reply.

A reply is built field by field. What the JSON library or the robot raises on the way
replaces it by one without an id. An array is read by index with no look at its length,
and a reply is printed where nothing catches what that raises.
-/

import FlexivControl.Realtime.Daemon
import FlexivControl.Wire.Client

namespace FlexivControl

variable {K : Type} [Scalar K]

/-- How a request is cut short: an exception with its text, `none` where the text is not
UTF-8, or an access past the end of an array. -/
inductive Fault where
  | thrown (what : Option String)
  | undefined
  deriving DecidableEq

def jsonTypeName : Json K → String
  | .null => "null"
  | .bool _ => "boolean"
  | .int _ | .num _ => "number"
  | .str _ => "string"
  | .arr _ => "array"
  | .obj _ => "object"

def jsonTypeError (code message : String) (found : Json K) : Fault :=
  .thrown (some ("[json.exception.type_error." ++ code ++ "] " ++ message ++ jsonTypeName found))

def getDouble : Json K → Except Fault K
  | .int n => .ok (Scalar.ofInt n)
  | .num x => .ok x
  | found => .error (jsonTypeError "302" "type must be number, but is " found)

/-- An integer cut to 32 bits, as a conversion to `int` leaves it. -/
def toInt32 (n : Int) : Int := (n + 2 ^ 31) % 2 ^ 32 - 2 ^ 31

def truncate (x : K) : Int := if x < 0 then Scalar.ceil x else -Scalar.ceil (-x)

def getInt : Json K → Except Fault Int
  | .int n => .ok (toInt32 n)
  | .num x =>
      if Scalar.ofInt (-2 ^ 31 - 1) < x ∧ x < Scalar.ofInt (2 ^ 31) then .ok (truncate x)
      else .error .undefined
  | .bool b => .ok (if b then 1 else 0)
  | found => .error (jsonTypeError "302" "type must be number, but is " found)

def getString : Json K → Except Fault String
  | .str text => .ok text
  | found => .error (jsonTypeError "302" "type must be string, but is " found)

def valueOr {α : Type} (read : Json K → Except Fault α) (key : String) (default : α) :
    Json K → Except Fault α
  | .obj fields =>
      match Json.field? fields key with
      | none => .ok default
      | some found => read found
  | found => .error (jsonTypeError "306" "cannot use value() with " found)

def atKey (key : String) : Json K → Except Fault (Json K)
  | .obj fields =>
      match Json.field? fields key with
      | none => .error (.thrown (some
          ("[json.exception.out_of_range.403] key '" ++ key ++ "' not found")))
      | some found => .ok found
  | found => .error (jsonTypeError "304" "cannot use at() with " found)

/-- `[i]`, which does not look at the array's length. -/
def atIndex (i : Nat) : Json K → Except Fault (Json K)
  | .arr items =>
      match items[i]? with
      | none => .error .undefined
      | some item => .ok item
  | found => .error (jsonTypeError "305" "cannot use operator[] with a numeric argument with " found)

def givenKey (key : String) : Json K → Option (Json K)
  | .obj fields =>
      match Json.field? fields key with
      | none | some .null => none
      | some found => some found
  | _ => none

/-- The loop over an array's first entries, from entry `i` on. -/
def readDoubles (json : Json K) : Nat → Nat → Except Fault (List K)
  | _, 0 => .ok []
  | i, count + 1 => do
      let item ← atIndex i json
      let x ← getDouble item
      let rest ← readDoubles json (i + 1) count
      pure (x :: rest)

def kCartDof : Nat := 6

def kPoseDim : Nat := 7

def posePart (xs : List K) : Pose K :=
  ⟨⟨xs.getD 0 0, xs.getD 1 0, xs.getD 2 0⟩, ⟨xs.getD 3 0, xs.getD 4 0, xs.getD 5 0, xs.getD 6 0⟩⟩

def readWrench (params : Json K) (sp : SetPoint K) : Except Fault (SetPoint K) :=
  match givenKey "wrench" params with
  | none => .ok sp
  | some wrench => do
      let xs ← readDoubles wrench 0 kCartDof
      pure { sp with wrench := fun axis => xs.getD axis 0 }

def readGripper (params : Json K) (sp : SetPoint K) : Except Fault (SetPoint K) :=
  match givenKey "gripper" params with
  | none => .ok sp
  | some gripper => do
      let width ← valueOr getDouble "width" (-1) gripper
      let force ← valueOr getDouble "force" (Scalar.ofNat 20) gripper
      pure { sp with gripperWidth := width, gripperForce := force }

/-- The setpoint of a request; only one of the two streaming methods takes a wrench. -/
def readSetPoint (withWrench : Bool) (req : Json K) : Except Fault (SetPoint K) := do
  let p ← atKey "params" req
  let pose ← atKey "pose" p
  let xs ← readDoubles pose 0 kPoseDim
  let sp : SetPoint K := { pose := posePart xs }
  let sp ← if withWrench then readWrench p sp else pure sp
  readGripper p sp

/-! ### Handling a request -/

structure RobotStates (K : Type) where
  q : List K
  dq : List K
  tau : List K
  tcpPose : List K
  tcpVel : List K
  extWrenchInWorld : List K

/-- What is asked of the robot and the clock while one line is handled. -/
structure LineEnv (K : Type) where
  states : Except (Option String) (RobotStates K)
  nowS : K

def numbers (xs : List K) : Json K := .arr (xs.map .num)

def RobotStates.toJson (st : RobotStates K) (nowS : K) : Json K :=
  .obj [("stamp", .num nowS), ("q", numbers st.q), ("dq", numbers st.dq), ("tau", numbers st.tau),
    ("tcp_pose", numbers st.tcpPose), ("tcp_vel", numbers st.tcpVel),
    ("wrench", numbers st.extWrenchInWorld), ("gripper_width", .num 0), ("gripper_force", .num 0),
    ("gripper_is_moving", .bool false), ("control_mode", .str "rt_cartesian_motion_force"),
    ("safety_status", .str "ok"), ("stop_reason", .str "none"), ("active_owner", .str "")]

structure Handled (K : Type) [Scalar K] where
  published : Option (SetPoint K) := none
  stops : Bool := false
  reply : Json K

def noopMethods : List String :=
  ["acquire_lease", "release_lease", "heartbeat", "set_safety_profile",
    "start_cartesian_impedance", "start_joint_impedance"]

def okResponse (id : Int) (result : Json K) : Json K :=
  .obj [("id", .int id), ("ok", .bool true), ("result", result)]

def answerMethod (env : LineEnv K) (req : Json K) (id : Int) (method : String) :
    Except Fault (Handled K) :=
  if method = "set_cartesian_target" then do
    let sp ← readSetPoint true req
    pure { published := some sp, reply := okResponse id (.obj [("accepted", .bool true)]) }
  else if method = "get_state" then
    match env.states with
    | .error what => .error (.thrown what)
    | .ok st => pure { reply := okResponse id (.obj [("state", st.toJson env.nowS)]) }
  else if method = "stop" then
    pure { stops := true, reply := okResponse id (.obj [("stopping", .bool true)]) }
  else if method = "ping" then
    pure { reply := okResponse id (.obj [("pong", .bool true)]) }
  else if method ∈ noopMethods then
    pure { reply := okResponse id (.obj []) }
  else if method = "get_lease" then
    pure { reply := okResponse id (.obj [("owner", .str "")]) }
  else if method = "servo_cartesian_pose" then do
    let sp ← readSetPoint false req
    pure {
      published := some sp
      reply := okResponse id (.obj [("result", .obj [("success", .bool true),
        ("clipped", .bool false), ("stop_reason", .str "none")])]) }
  else
    pure { reply := .obj [("id", .int id), ("ok", .bool false),
      ("error", .str ("unknown or non-RT method: " ++ method))] }

/-- The inside of the `try` block, once the line is parsed. -/
def handleRequest (env : LineEnv K) (req : Json K) : Except Fault (Handled K) := do
  let id ← valueOr getInt "id" 0 req
  let method ← valueOr getString "method" "" req
  answerMethod env req id method

/-- What becomes of a line: a reply, the end of the process where the reply cannot be
printed, or nothing the language defines. -/
inductive LineOutcome (K : Type) [Scalar K] where
  | answered (handled : Handled K)
  | terminated
  | undefined

def caught : Option String → LineOutcome K
  | some what =>
      .answered { reply := .obj [("ok", .bool false), ("error", .str ("parse/exec: " ++ what))] }
  | none => .terminated

/-- One line that is not empty; `parse` is the library's parser. -/
def answerLine (parse : List UInt8 → Except (Option String) (Json K)) (env : LineEnv K)
    (line : List UInt8) : LineOutcome K :=
  match parse line with
  | .error what => caught what
  | .ok req =>
      match handleRequest env req with
      | .ok handled => .answered handled
      | .error (.thrown what) => caught what
      | .error .undefined => .undefined

def LineOutcome.replies : LineOutcome K → List (Json K)
  | .answered handled => [handled.reply]
  | _ => []

def LineOutcome.published : LineOutcome K → Option (SetPoint K)
  | .answered handled => handled.published
  | _ => none

def LineOutcome.stops : LineOutcome K → Bool
  | .answered handled => handled.stops
  | _ => false

def LineOutcome.fatal : LineOutcome K → Bool
  | .answered _ => false
  | _ => true

end FlexivControl
