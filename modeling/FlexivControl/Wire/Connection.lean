/-
One client connection of the control server: lines in, replies out.

A line that is no JSON is answered where it is read. Everything else goes through
`dispatch`, which looks the request apart before the block that catches what a handler
raises: a value without fields or a method that cannot be a key ends the connection.
-/

import FlexivControl.Core.Types
import FlexivControl.Library.Json

namespace FlexivControl

def handlerNames : List String :=
  ["ping", "acquire_lease", "release_lease", "heartbeat", "get_lease", "set_safety_profile",
    "get_safety_profile", "get_state", "start_cartesian_impedance", "start_joint_impedance",
    "servo_cartesian_delta", "servo_cartesian_pose", "execute_cartesian_chunk",
    "execute_joint_chunk", "move_joint", "command_gripper", "home", "go_home_safe",
    "zero_ft_sensor", "stop", "start_servo_loop", "servo_stream", "servo_stream_joint",
    "stop_servo_loop"]

def ExceptionKind.className : ExceptionKind → String
  | .runtimeError => "RuntimeError"
  | .valueError => "ValueError"
  | .notImplementedError => "NotImplementedError"
  | .leaseError => "LeaseError"
  | .servoLoopActive => "_ServoLoopActive"
  | .chunkStoppedError => "ChunkStoppedError"
  | .other name => name

def errorText (e : Exc) : String :=
  match e.kind with
  | .leaseError => "lease: " ++ e.message
  | .servoLoopActive => e.message
  | kind => kind.className ++ ": " ++ e.message

def typeName {K : Type} : Json K → String
  | .null => "NoneType"
  | .bool _ => "bool"
  | .int _ => "int"
  | .num _ => "float"
  | .str _ => "str"
  | .arr _ => "list"
  | .obj _ => "dict"

variable {K : Type}

def okReply (rid result : Json K) : Json K :=
  .obj [("id", rid), ("ok", .bool true), ("result", result)]

def errorReply (rid : Json K) (error : String) : Json K :=
  .obj [("id", rid), ("ok", .bool false), ("error", .str error)]

abbrev HandlerTable (K : Type) := String → Json K → Except Exc (Json K)

/-- `self._handlers.get(method)`: a method that cannot be hashed raises. -/
def findHandler (call : HandlerTable K) (method : Json K) :
    Except Exc (Option (Json K → Except Exc (Json K))) :=
  match method with
  | .arr _ | .obj _ => .error ⟨.other "TypeError", "unhashable type: '" ++ typeName method ++ "'"⟩
  | .str name => .ok (if name ∈ handlerNames then some (call name) else none)
  | _ => .ok none

/-- `_dispatch`; `repr` is how the language prints a value. -/
def dispatch [Scalar K] (repr : Json K → String) (call : HandlerTable K) :
    Json K → Except Exc (Json K)
  | .obj fields => do
      let rid := (Json.field? fields "id").getD (.int (-1))
      let method := (Json.field? fields "method").getD (.str "")
      let given := (Json.field? fields "params").getD (.obj [])
      let params := if given.truthy then given else .obj []
      match ← findHandler call method with
      | none => pure (errorReply rid ("unknown method: " ++ repr method))
      | some handler =>
          match handler params with
          | .ok result => pure (okReply rid result)
          | .error e => pure (errorReply rid (errorText e))
  | req => .error ⟨.other "AttributeError",
      "'" ++ typeName req ++ "' object has no attribute 'get'"⟩

/-- What the socket brings: a line, with the handlers as they act when it is dispatched and
whether its reply can still be written, or a reset. -/
inductive Incoming (K : Type) where
  | line (bytes : List UInt8) (call : HandlerTable K) (writable : Bool)
  | reset

inductive Ended where
  | endOfFile
  | osError
  | raised (e : Exc)
  deriving DecidableEq

/-- What the client has been sent, and why it is sent no more. -/
structure Served (K : Type) where
  replies : List (Json K)
  ended : Ended

def Served.prepend (reply : Json K) (served : Served K) : Served K :=
  { served with replies := reply :: served.replies }

def strip (bytes : List UInt8) : List UInt8 :=
  let inner := bytes.dropWhile fun b => b = 32 || (9 ≤ b && b ≤ 13)
  (inner.reverse.dropWhile fun b => b = 32 || (9 ≤ b && b ≤ 13)).reverse

section Connection

variable [Scalar K] (loads : List UInt8 → Except Exc (Json K)) (repr : Json K → String)

/-- The reply to one line: one that does not parse is answered with id -1. -/
def answer (call : HandlerTable K) (line : List UInt8) : Except Exc (Json K) :=
  match loads line with
  | .error e => .ok (errorReply (.int (-1)) ("bad json: " ++ e.message))
  | .ok req => dispatch repr call req

def handleLines : List (Incoming K) → Served K
  | [] => ⟨[], .endOfFile⟩
  | .reset :: _ => ⟨[], .osError⟩
  | .line bytes call writable :: rest =>
      let line := strip bytes
      if line.isEmpty then handleLines rest
      else
        match answer loads repr call line with
        | .error e => ⟨[], .raised e⟩
        | .ok reply =>
            if writable then (handleLines rest).prepend reply else ⟨[], .osError⟩

end Connection

/-! ### One reply for each line -/

/-- The lines that get as far as a reply: the non-blank ones up to the end of the file, a
reset or a reply that cannot be written. -/
def reachedLines : List (Incoming K) → List (List UInt8)
  | [] => []
  | .reset :: _ => []
  | .line bytes _ writable :: rest =>
      let line := strip bytes
      if line.isEmpty then reachedLines rest
      else line :: if writable then reachedLines rest else []

def answeredLines : List (Incoming K) → List (List UInt8)
  | [] => []
  | .reset :: _ => []
  | .line bytes _ writable :: rest =>
      let line := strip bytes
      if line.isEmpty then answeredLines rest
      else if writable then line :: answeredLines rest else []

/-- How the socket ends the connection if nothing else does. -/
def closing : List (Incoming K) → Ended
  | [] => .endOfFile
  | .reset :: _ => .osError
  | .line bytes _ writable :: rest =>
      if (strip bytes).isEmpty || writable then closing rest else .osError

theorem closing_ne_raised (incoming : List (Incoming K)) (e : Exc) :
    closing incoming ≠ .raised e := by
  induction incoming with
  | nil =>
      intro same
      cases same
  | cons head rest ih =>
      cases head with
      | reset =>
          intro same
          cases same
      | line bytes call writable =>
          unfold closing
          split
          · exact ih
          · intro same
            cases same

def requestId (loads : List UInt8 → Except Exc (Json K)) (line : List UInt8) : Json K :=
  match loads line with
  | .ok (.obj fields) => (Json.field? fields "id").getD (.int (-1))
  | _ => .int (-1)

def replyId : Json K → Option (Json K)
  | .obj fields => Json.field? fields "id"
  | _ => none

/-- An object whose method, where it gives one, is neither an array nor an object. -/
def namesMethod : Json K → Bool
  | .obj fields => ((Json.field? fields "method").getD (.str "")).isAtom
  | _ => false

/-- Every line reached is answered, in order, by one reply with its request's id, and only
the socket ends the connection. -/
structure OneReplyEach (loads : List UInt8 → Except Exc (Json K)) (incoming : List (Incoming K))
    (served : Served K) : Prop where
  replies : served.replies.map replyId =
    (answeredLines incoming).map fun line => some (requestId loads line)
  ended : served.ended = closing incoming

section Replies

variable {loads : List UInt8 → Except Exc (Json K)}

theorem findHandler_ok (call : HandlerTable K) {method : Json K} (atom : method.isAtom = true) :
    ∃ handler, findHandler call method = .ok handler := by
  cases method with
  | arr items => cases atom
  | obj fields => cases atom
  | str name => exact ⟨_, rfl⟩
  | null => exact ⟨none, rfl⟩
  | bool value => exact ⟨none, rfl⟩
  | int value => exact ⟨none, rfl⟩
  | num value => exact ⟨none, rfl⟩

theorem findHandler_error (call : HandlerTable K) {method : Json K}
    (compound : method.isAtom = false) : ∃ e, findHandler call method = .error e := by
  cases method with
  | arr items => exact ⟨_, rfl⟩
  | obj fields => exact ⟨_, rfl⟩
  | str name => cases compound
  | null => cases compound
  | bool value => cases compound
  | int value => cases compound
  | num value => cases compound

variable [Scalar K] (repr : Json K → String) (call : HandlerTable K)

/-- A request that names its method is answered with its own id, whatever it asks for. -/
theorem dispatch_ok {fields : List (String × Json K)}
    (named : namesMethod (.obj fields) = true) :
    ∃ reply, dispatch repr call (.obj fields) = .ok reply ∧
      replyId reply = some ((Json.field? fields "id").getD (.int (-1))) := by
  obtain ⟨handler, found⟩ := findHandler_ok call named
  unfold dispatch
  dsimp only
  rw [found]
  cases handler with
  | none => exact ⟨_, rfl, Json.field?_cons_self _ _ _⟩
  | some handler =>
      dsimp only [bind, Except.bind]
      split
      · exact ⟨_, rfl, Json.field?_cons_self _ _ _⟩
      · exact ⟨_, rfl, Json.field?_cons_self _ _ _⟩

theorem dispatch_error {req : Json K} (unnamed : namesMethod req = false) :
    ∃ e, dispatch repr call req = .error e := by
  cases req with
  | obj fields =>
      obtain ⟨e, missing⟩ := findHandler_error call unnamed
      refine ⟨e, ?_⟩
      unfold dispatch
      dsimp only
      rw [missing]
      rfl
  | null => exact ⟨_, rfl⟩
  | bool value => exact ⟨_, rfl⟩
  | int value => exact ⟨_, rfl⟩
  | num value => exact ⟨_, rfl⟩
  | str value => exact ⟨_, rfl⟩
  | arr items => exact ⟨_, rfl⟩

theorem answer_ok {line : List UInt8}
    (named : ∀ req, loads line = .ok req → namesMethod req = true) :
    ∃ reply, answer loads repr call line = .ok reply ∧
      replyId reply = some (requestId loads line) := by
  unfold answer requestId
  cases parsed : loads line with
  | error e => exact ⟨_, rfl, Json.field?_cons_self _ _ _⟩
  | ok req =>
      have names := named req parsed
      cases req with
      | obj fields => exact dispatch_ok repr call names
      | null => cases names
      | bool value => cases names
      | int value => cases names
      | num value => cases names
      | str value => cases names
      | arr items => cases names

theorem answer_error {line : List UInt8} {req : Json K} (parsed : loads line = .ok req)
    (unnamed : namesMethod req = false) : ∃ e, answer loads repr call line = .error e := by
  unfold answer
  rw [parsed]
  exact dispatch_error repr call unnamed

theorem handleLines_replies {incoming : List (Incoming K)}
    (named : ∀ line ∈ reachedLines incoming, ∀ req, loads line = .ok req →
      namesMethod req = true) :
    OneReplyEach loads incoming (handleLines loads repr incoming) := by
  induction incoming with
  | nil => exact ⟨rfl, rfl⟩
  | cons head rest ih =>
      cases head with
      | reset => exact ⟨rfl, rfl⟩
      | line bytes call writable =>
          unfold reachedLines at named
          cases blank : (strip bytes).isEmpty with
          | true =>
              simp only [blank, if_true] at named
              have later := ih named
              refine ⟨?_, ?_⟩
              · simp only [handleLines, answeredLines, blank, if_true]
                exact later.replies
              · simp only [handleLines, closing, blank, if_true, Bool.true_or]
                exact later.ended
          | false =>
              simp only [blank, Bool.false_eq_true, if_false] at named
              obtain ⟨reply, answered, carries⟩ := answer_ok repr call
                (named _ List.mem_cons_self)
              cases writable with
              | true =>
                  have later := ih fun line member => named line (List.mem_cons_of_mem _ member)
                  refine ⟨?_, ?_⟩
                  · simp only [handleLines, answeredLines, blank, Bool.false_eq_true, if_false,
                      if_true, answered, Served.prepend, List.map_cons, carries, later.replies]
                  · simp only [handleLines, closing, blank, Bool.false_eq_true, if_false, if_true,
                      answered, Served.prepend, Bool.or_true, later.ended]
              | false =>
                  refine ⟨?_, ?_⟩
                  · simp only [handleLines, answeredLines, blank, answered, Bool.false_eq_true,
                      if_false, List.map_nil]
                  · simp only [handleLines, closing, blank, answered, Bool.false_eq_true,
                      if_false, Bool.or_self]

theorem handleLines_raised {incoming : List (Incoming K)} {line : List UInt8} {req : Json K}
    (reached : line ∈ reachedLines incoming) (parsed : loads line = .ok req)
    (unnamed : namesMethod req = false) :
    ∃ e, (handleLines loads repr incoming).ended = .raised e := by
  induction incoming with
  | nil => cases reached
  | cons head rest ih =>
      cases head with
      | reset => cases reached
      | line bytes call writable =>
          unfold reachedLines at reached
          unfold handleLines
          cases blank : (strip bytes).isEmpty with
          | true =>
              simp only [blank, if_true] at reached ⊢
              exact ih reached
          | false =>
              simp only [blank, Bool.false_eq_true, if_false] at reached ⊢
              cases answered : answer loads repr call (strip bytes) with
              | error e => exact ⟨e, rfl⟩
              | ok reply =>
                  rcases List.mem_cons.mp reached with here | later
                  · rw [here] at parsed
                    obtain ⟨e, failed⟩ := answer_error repr call parsed unnamed
                    rw [answered] at failed
                    cases failed
                  · cases writable with
                    | true => exact ih later
                    | false => cases later

end Replies

/-- The connection answers line by line exactly when every line that parses and is reached
is an object whose method is no array and no object. -/
theorem one_reply_per_line_iff [Scalar K] (loads : List UInt8 → Except Exc (Json K))
    (repr : Json K → String) (incoming : List (Incoming K)) :
    OneReplyEach loads incoming (handleLines loads repr incoming) ↔
      ∀ line ∈ reachedLines incoming, ∀ req, loads line = .ok req → namesMethod req = true := by
  constructor
  · intro each line reached req parsed
    by_contra unnamed
    obtain ⟨e, raised⟩ :=
      handleLines_raised repr reached parsed (Bool.eq_false_iff.mpr unnamed)
    exact closing_ne_raised incoming e (each.ended.symm.trans raised)
  · exact handleLines_replies repr

def loadsBrackets (line : List UInt8) : Except Exc (Json ℝ) :=
  if line = [91, 93] then .ok (.arr [])
  else .error ⟨.other "JSONDecodeError", "Expecting value: line 1 column 1 (char 0)"⟩

/-- The line `[]` is not answered, nor is the malformed line after it. -/
theorem array_ends_connection :
    ∃ served, handleLines loadsBrackets (fun _ => "")
        [.line [91, 93, 10] (fun _ _ => .ok .null) true,
          .line [93, 10] (fun _ _ => .ok .null) true] = served ∧
      served.replies = [] ∧
      served.ended = .raised ⟨.other "AttributeError",
        "'list' object has no attribute 'get'"⟩ :=
  ⟨_, rfl, rfl, rfl⟩

end FlexivControl
