/-
The host-wide lock of a robot: a file that names the process using it.

Reading the file, testing whether its process is alive, replacing the file and removing
it are single steps; what an object notes about itself belongs to the step before it.
Every call of a method is a thread of its own, so calls on one object and on several are
interleaved alike.
-/

import FlexivControl.Core.Types
import FlexivControl.Library.Pool

namespace FlexivControl

open Pool

/-- What the lock file says; a file without a process id counts as process -1. -/
structure LockFile where
  pid : Option Int
  owner : String
  deriving DecidableEq, Repr

def LockFile.holderPid (info : LockFile) : Int := info.pid.getD (-1)

/-- One `HostLock` object of a process. -/
structure Handle where
  process : Nat
  index : Nat
  deriving DecidableEq, Repr

inductive HostOp where
  | setOwner (handle : Handle) (owner : String)
  | read
  | pidAlive (pid : Int)
  | replace (handle : Handle)
  | isHeld (handle : Handle)
  | remove (handle : Handle)
  | forget (handle : Handle)
  deriving DecidableEq, Repr

def hostOps : Signature where
  Op := HostOp
  Resp
    | .read => Option LockFile
    | .pidAlive _ | .isHeld _ => Bool
    | _ => Unit

abbrev HostM := Program hostOps

def hostStep (op : HostOp) : HostM (hostOps.Resp op) := .call op .done

inductive HostCall where
  | acquire (handle : Handle) (owner : Option String) (force : Bool)
  | release (handle : Handle)
  | holder (handle : Handle)
  deriving DecidableEq, Repr

def HostCall.process : HostCall → Nat
  | .acquire handle _ _ | .release handle | .holder handle => handle.process

/-- The file's contents if a different process that is alive holds it; `pid` is the
caller's own. -/
def liveOtherHolder (pid : Int) : HostM (Option LockFile) := do
  match ← hostStep .read with
  | none => pure none
  | some info =>
      if info.holderPid = pid then pure none
      else do
        let alive : Bool ← hostStep (.pidAlive info.holderPid)
        pure (if alive then some info else none)

def hostLockError (robotId : String) (other : LockFile) : Exc :=
  ⟨.other "HostLockError", "robot '" ++ robotId ++ "' is host-locked by pid " ++
    (match other.pid with | none => "None" | some pid => toString pid) ++ " (owner '" ++
    other.owner ++ "'); another process holds it. Pass force=True to override, or stop " ++
    "that process."⟩

def setHandleOwner (handle : Handle) : Option String → HostM Unit
  | none => pure ()
  | some owner => hostStep (.setOwner handle owner)

def acquireHost (robotId : String) (pid : Int) (handle : Handle) (owner : Option String)
    (force : Bool) : HostM (Except Exc Unit) := do
  setHandleOwner handle owner
  match ← liveOtherHolder pid with
  | some other =>
      if force then do
        hostStep (.replace handle)
        pure (.ok ())
      else pure (.error (hostLockError robotId other))
  | none => do
      hostStep (.replace handle)
      pure (.ok ())

/-- The file is removed only while it names the own process. -/
def releaseHost (pid : Int) (handle : Handle) : HostM (Except Exc Unit) := do
  let held : Bool ← hostStep (.isHeld handle)
  if held then
    match ← hostStep .read with
    | none => do
        hostStep (.forget handle)
        pure (.ok ())
    | some info =>
        if info.holderPid = pid then do
          hostStep (.remove handle)
          pure (.ok ())
        else do
          hostStep (.forget handle)
          pure (.ok ())
  else pure (.ok ())

def hostCall (robotId : String) (pid : Nat → Int) : HostCall → HostM (Except Exc Unit)
  | .acquire handle owner force => acquireHost robotId (pid handle.process) handle owner force
  | .release handle => releaseHost (pid handle.process) handle
  | .holder handle => do
      let _ ← liveOtherHolder (pid handle.process)
      pure (.ok ())

/-! ### The processes of one host -/

inductive ProcessStatus where
  | unborn
  | running
  | dead
  deriving DecidableEq, Repr

structure HostState where
  file : Option LockFile
  held : Handle → Bool
  owner : Handle → String
  status : Nat → ProcessStatus

inductive HostMove where
  | start (process : Nat)
  | die (process : Nat)

abbrev HostEvent := Event hostOps Nat HostMove

namespace HostState

def Alive (s : HostState) (pid : Nat → Int) (id : Int) : Prop :=
  0 < id ∧ ∃ process, s.status process = .running ∧ pid process = id

def Answers (s : HostState) (pid : Nat → Int) : Call hostOps → Prop
  | ⟨.read, info⟩ => info = s.file
  | ⟨.pidAlive id, alive⟩ => alive = true ↔ s.Alive pid id
  | ⟨.isHeld handle, held⟩ => held = s.held handle
  | _ => True

def afterCall (s : HostState) (pid : Nat → Int) : Call hostOps → HostState
  | ⟨.setOwner handle owner, _⟩ => { s with owner := Function.update s.owner handle owner }
  | ⟨.replace handle, _⟩ => { s with
      file := some ⟨some (pid handle.process), s.owner handle⟩
      held := Function.update s.held handle true }
  | ⟨.remove handle, _⟩ => { s with file := none, held := Function.update s.held handle false }
  | ⟨.forget handle, _⟩ => { s with held := Function.update s.held handle false }
  | _ => s

def afterMove (s : HostState) : HostMove → HostState
  | .start process => { s with status := Function.update s.status process .running }
  | .die process => { s with status := Function.update s.status process .dead }

end HostState

/-- A thread moves while its process runs, and a process starts with an id that no
running process has. -/
def host (pid : Nat → Int) (calls : Nat → HostCall) : Machine hostOps Nat HostMove HostState where
  enabled
    | s, .call t c => s.status (calls t).process = .running ∧ s.Answers pid c
    | s, .env (.start process) => s.status process = .unborn ∧ 0 < pid process ∧
        ∀ other, s.status other = .running → pid other ≠ pid process
    | s, .env (.die process) => s.status process = .running
  next
    | s, .call _ c => s.afterCall pid c
    | s, .env move => s.afterMove move

/-- No process has been started yet; what the file says is arbitrary. -/
structure HostState.Idle (s : HostState) : Prop where
  unborn : ∀ process, s.status process = .unborn
  unheld : ∀ handle, s.held handle = false

def hostThreads (robotId : String) (pid : Nat → Int) (calls : Nat → HostCall) (t : Nat) :
    HostM (Except Exc Unit) :=
  hostCall robotId pid (calls t)

structure HostRun (robotId : String) (pid : Nat → Int) (calls : Nat → HostCall)
    (start : HostState) (events : List HostEvent) : Prop where
  idle : start.Idle
  run : Run (host pid calls) (hostThreads robotId pid calls) start events

/-- A live process has an object that holds the lock. -/
def HostState.Holds (s : HostState) (process : Nat) : Prop :=
  s.status process = .running ∧ ∃ handle, handle.process = process ∧ s.held handle = true

end FlexivControl
