/-
The client's end of a connection: one call over the shared socket, and the link between
the client's threads and the server.

The link keeps every line written and every reply sent, so that a reply can be told by
the line it answers and not only by its id. A write that raises may still reach the
server, late, in part or not at all; a read may raise at any time.
-/

import FlexivControl.Library.Pool
import FlexivControl.Wire.Connection

namespace FlexivControl

open Pool

structure RequestLine (K : Type) where
  id : Nat
  method : String
  params : Json K

abbrev Parsed (K : Type) := Except Exc (Json K)

inductive ClientOp (K : Type) where
  | isOpen
  | lockIo
  | unlockIo
  | loadId
  | storeId (id : Nat)
  | setTimeout (motion : Bool)
  | write (line : RequestLine K)
  | flush
  | readline

abbrev ClientOp.Resp {K : Type} : ClientOp K → Type
  | .isOpen => Bool
  | .loadId => Nat
  | .setTimeout _ | .write _ | .flush => Except Exc Unit
  | .readline => Except Exc (Option (Parsed K))
  | _ => Unit

abbrev clientOps (K : Type) : Signature where
  Op := ClientOp K
  Resp := ClientOp.Resp

abbrev ClientM (K : Type) := Script (clientOps K) Unit Exc

variable {K : Type}

def clientStep (op : ClientOp K) : ClientM K op.Resp := Script.perform (S := clientOps K) op

def raising {α : Type} (answer : Except Exc α) : ClientM K α :=
  match answer with
  | .ok a => pure a
  | .error e => throw e

def motionMethods : List String :=
  ["execute_cartesian_chunk", "execute_joint_chunk", "move_joint", "servo_cartesian_delta",
    "servo_cartesian_pose", "command_gripper", "home", "go_home_safe", "zero_ft_sensor"]

def remoteRobotError (message : String) : Exc := ⟨.other "RemoteRobotError", message⟩

def setTimeoutFor (method : String) (motion : Bool) : ClientM K Unit :=
  if method ∈ motionMethods then do
    raising (← clientStep (.setTimeout motion))
  else pure ()

def transmit (line : RequestLine K) : ClientM K (Option (Parsed K)) := do
  raising (← clientStep (.write line))
  raising (← clientStep .flush)
  raising (← clientStep .readline)

variable [Scalar K] (repr : Json K → String)

/-- `resp.get("id") == rid`, as the language compares numbers. -/
def idMatches (id : Option (Json K)) (rid : Nat) : Bool :=
  match id with
  | some (.int n) => n = rid
  | some (.num x) => decide (x ≤ Scalar.ofNat rid) && decide (Scalar.ofNat rid ≤ x)
  | some (.bool b) => (if b then 1 else 0) = rid
  | _ => false

def acceptReply (method : String) (rid : Nat) : Option (Parsed K) → Except Exc (Json K)
  | none => .error (remoteRobotError "server closed the connection")
  | some (.error e) => .error e
  | some (.ok (.obj fields)) =>
      let id := Json.field? fields "id"
      if idMatches id rid then .ok (.obj fields)
      else .error (remoteRobotError
        ("response id " ++ repr (id.getD .null) ++ " does not match request id " ++
          toString rid ++ " (" ++ method ++ "); the connection is desynchronized -- reconnect"))
  | some (.ok other) => .error ⟨.other "AttributeError",
      "'" ++ typeName other ++ "' object has no attribute 'get'"⟩

/-- The part of a call after its id is drawn; the socket's timeout is put back however the
transmission ends. -/
def converse (line : RequestLine K) : ClientM K (Json K) := do
  setTimeoutFor line.method true
  let read ← Script.ensuring (transmit line) (setTimeoutFor line.method false)
  raising (acceptReply repr line.method line.id read)

def exchange (method : String) (params : Json K) : ClientM K (Json K) := do
  let last : Nat ← clientStep .loadId
  clientStep (.storeId (last + 1))
  let rid : Nat ← clientStep .loadId
  converse repr ⟨rid, method, params⟩

def replyResult : Json K → Except Exc (Json K)
  | .obj fields =>
      if ((Json.field? fields "ok").getD (.bool false)).truthy then
        .ok ((Json.field? fields "result").getD (.obj []))
      else
        .error (remoteRobotError (match Json.field? fields "error" with
          | some (.str text) => text
          | _ => "unknown server error"))
  | _ => .error (remoteRobotError "unknown server error")

def call (method : String) (params : Json K) : ClientM K (Json K) := do
  let isOpen : Bool ← clientStep .isOpen
  if isOpen then do
    clientStep .lockIo
    let resp ← Script.ensuring (exchange repr method params) (clientStep .unlockIo)
    raising (replyResult resp)
  else throw (remoteRobotError "not connected; call connect() first")

/-- A client thread as its calls, each one chosen by what the earlier ones came to. -/
def rpcs (K : Type) : Signature where
  Op := String × Json K
  Resp _ := Except Exc (Json K)

def session {α : Type} : Program (rpcs K) α → Program (clientOps K) α
  | .done a => .done a
  | .call rpc next => call repr rpc.1 rpc.2 () >>= fun out => session (next out.1)

def clientThreads {ι : Type} (threads : ι → Program (rpcs K) Unit) (thread : ι) :
    Program (clientOps K) Unit :=
  session repr (threads thread)

/-! ### The link -/

/-- `stream` lists the replies in the order sent, each with the number of the line it
answers; `taken` counts the lines the server is through with and `consumed` the replies
read. -/
structure Link (K ι : Type) where
  nextId : Nat := 0
  ioHolder : Option ι := none
  written : List (RequestLine K) := []
  taken : Nat := 0
  stream : List (Option Nat × Json K) := []
  consumed : Nat := 0

/-- The server answers the next line, or one it cannot parse, made up of parts of some
lines; or a line never gets to it. -/
inductive LinkMove (K : Type) where
  | respond (reply : Json K)
  | garble (lines : Nat) (reply : Json K)
  | lose

abbrev LinkEvent (K ι : Type) := Event (clientOps K) ι (LinkMove K)

namespace Link

variable {ι : Type}

def Answers (s : Link K ι) : Call (clientOps K) → Prop
  | ⟨.lockIo, _⟩ => s.ioHolder = none
  | ⟨.loadId, id⟩ => id = s.nextId
  | ⟨.readline, .ok (some (.ok reply))⟩ => ∃ line, s.stream[s.consumed]? = some (line, reply)
  | _ => True

/-- One reply for each line, with the line's id, or with -1 for what does not parse. -/
def Enabled (s : Link K ι) : LinkEvent K ι → Prop
  | .call _ c => s.Answers c
  | .env (.respond reply) =>
      ∃ line, s.written[s.taken]? = some line ∧ replyId reply = some (.int line.id)
  | .env (.garble lines reply) =>
      s.taken + lines ≤ s.written.length ∧ replyId reply = some (.int (-1))
  | .env .lose => s.taken < s.written.length

def afterCall (s : Link K ι) (thread : ι) : Call (clientOps K) → Link K ι
  | ⟨.lockIo, _⟩ => { s with ioHolder := some thread }
  | ⟨.unlockIo, _⟩ => { s with ioHolder := none }
  | ⟨.storeId id, _⟩ => { s with nextId := id }
  | ⟨.write line, _⟩ => { s with written := s.written ++ [line] }
  | ⟨.readline, .ok (some (.ok _))⟩ => { s with consumed := s.consumed + 1 }
  | _ => s

def next (s : Link K ι) : LinkEvent K ι → Link K ι
  | .call thread c => s.afterCall thread c
  | .env (.respond reply) =>
      { s with taken := s.taken + 1, stream := s.stream ++ [(some s.taken, reply)] }
  | .env (.garble lines reply) =>
      { s with taken := s.taken + lines, stream := s.stream ++ [(none, reply)] }
  | .env .lose => { s with taken := s.taken + 1 }

/-- The server has sent this reply to that line. -/
def Answered (s : Link K ι) (line : Nat) (reply : Json K) : Prop := (some line, reply) ∈ s.stream

end Link

def link (K ι : Type) : Machine (clientOps K) ι (LinkMove K) (Link K ι) where
  enabled := Link.Enabled
  next := Link.next

/-- A run of the client's threads over a fresh connection. -/
abbrev LinkRun {K ι : Type} [Scalar K] [DecidableEq ι] (repr : Json K → String)
    (threads : ι → Program (rpcs K) Unit)
    (events : List (LinkEvent K ι)) : Prop :=
  Run (link K ι) (clientThreads repr threads) {} events

end FlexivControl
