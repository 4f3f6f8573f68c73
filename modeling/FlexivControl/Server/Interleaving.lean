/-
The server process: what its threads share and how a step of one of them changes it.

Each lease operation, each acquisition or release of the robot lock and each effect is
one step. Every request has a handler thread of its own, so requests of one connection
and of several are interleaved alike. The servo loop's thread appears only as another
holder of the lock.
-/

import FlexivControl.Filter.Workspace
import FlexivControl.Library.Pool
import FlexivControl.Server.Handlers
import FlexivControl.Server.Lease

namespace FlexivControl

open Pool

variable {K : Type} [Scalar K]

inductive Holder where
  | handler (request : Nat)
  | loop
  deriving DecidableEq, Repr

/-- `robot` is the facade as the last holder of the lock left it. -/
structure ServerState (K : Type) [Scalar K] where
  now : K
  lease : Lease K
  robot : Robot K
  cancel : Bool := false
  lockHolder : Option Holder := none
  servoLoop : Option Nat := none
  loopsStarted : Nat := 0
  facadeOwner : Option String := none
  latestState : Option (RobotState K) := none

/-- What is not a call of a handler: a request comes in or its reply goes out, time
passes, or the servo loop's thread takes or leaves the lock. -/
inductive Move (K : Type) [Scalar K] where
  | receive (request : Nat)
  | reply (request : Nat)
  | elapse (now : K)
  | loopLock
  | loopUnlock (robot : Robot K)

abbrev ServerEvent (K : Type) [Scalar K] := Event (effects K) Nat (Move K)

namespace ServerState

def Answers (s : ServerState K) : Call (effects K) → Prop
  | ⟨.cancelIsSet _, set⟩ => set = s.cancel
  | ⟨.wallClock, now⟩ => now = s.now
  | ⟨.peekState, state⟩ => state = s.latestState
  | ⟨.facadeOwner, owner⟩ => owner = s.facadeOwner
  | ⟨.activeProfile, profile⟩ => profile = s.robot.profile
  | ⟨.leaseOwner, owner⟩ => owner = (s.lease.owner s.now).1
  | ⟨.leaseAcquire owner force, result⟩ =>
      result = (s.lease.acquire owner force s.now).1.map fun info => (info.owner, info.expiresAt)
  | ⟨.leaseHeartbeat owner, result⟩ =>
      result = (s.lease.heartbeat owner s.now).1.map fun info => info.expiresAt
  | ⟨.leaseRelease owner, result⟩ => result = (s.lease.release owner).1
  | ⟨.leaseCheck owner, result⟩ => result = (s.lease.check owner s.now).1
  | ⟨.holdEnter owner, result⟩ => result = (s.lease.holdEnter owner s.now).1
  | ⟨.lockAcquire, robot⟩ => s.lockHolder = none ∧ robot = s.robot
  | ⟨.lockTryAcquire, taken⟩ => taken = if s.lockHolder = none then some s.robot else none
  | ⟨.loopSlot, loop⟩ => loop = s.servoLoop
  | ⟨.loopTake, loop⟩ => loop = s.servoLoop
  | ⟨.loopInstall _, loop⟩ => loop = s.loopsStarted
  | _ => True

def Enabled (s : ServerState K) : ServerEvent K → Prop
  | .call _ c => s.Answers c
  | .env (.elapse now) => s.now ≤ now
  | .env .loopLock => s.lockHolder = none
  | .env (.loopUnlock _) => s.lockHolder = some .loop
  | .env _ => True

def afterCall (s : ServerState K) (thread : Nat) : Call (effects K) → ServerState K
  | ⟨.cancelClear, _⟩ => { s with cancel := false }
  | ⟨.cancelSet, _⟩ => { s with cancel := true }
  | ⟨.publishState state, _⟩ => { s with latestState := some state }
  | ⟨.setFacadeOwner owner, _⟩ => { s with facadeOwner := some owner }
  | ⟨.leaseOwner, _⟩ => { s with lease := (s.lease.owner s.now).2 }
  | ⟨.leaseAcquire owner force, _⟩ => { s with lease := (s.lease.acquire owner force s.now).2 }
  | ⟨.leaseHeartbeat owner, _⟩ => { s with lease := (s.lease.heartbeat owner s.now).2 }
  | ⟨.leaseRelease owner, _⟩ => { s with lease := (s.lease.release owner).2 }
  | ⟨.leaseCheck owner, _⟩ => { s with lease := (s.lease.check owner s.now).2 }
  | ⟨.holdEnter owner, _⟩ => { s with lease := (s.lease.holdEnter owner s.now).2 }
  | ⟨.holdExit owner, _⟩ => { s with lease := s.lease.holdExit owner s.now }
  | ⟨.lockAcquire, _⟩ => { s with lockHolder := some (.handler thread) }
  | ⟨.lockTryAcquire, some _⟩ => { s with lockHolder := some (.handler thread) }
  | ⟨.lockRelease robot, _⟩ => { s with lockHolder := none, robot := robot }
  | ⟨.setSafetyProfile profile, _⟩ => { s with robot := s.robot.withProfile profile }
  | ⟨.loopTake, _⟩ => { s with servoLoop := none }
  | ⟨.loopInstall _, loop⟩ => { s with servoLoop := some loop, loopsStarted := s.loopsStarted + 1 }
  | _ => s

def afterMove (s : ServerState K) : Move K → ServerState K
  | .elapse now => { s with now := now }
  | .loopLock => { s with lockHolder := some .loop }
  | .loopUnlock robot => { s with lockHolder := none, robot := robot }
  | _ => s

def next (s : ServerState K) : ServerEvent K → ServerState K
  | .call thread c => s.afterCall thread c
  | .env move => s.afterMove move

end ServerState

def server : Machine (effects K) Nat (Move K) (ServerState K) where
  enabled := ServerState.Enabled
  next := ServerState.next

structure ServerState.Started (s : ServerState K) : Prop where
  unleased : s.lease.info = none
  unheld : s.lease.holds = 0
  unlocked : s.lockHolder = none
  noLoop : s.servoLoop = none
  clear : s.cancel = false

/-- The thread of each request. -/
def handlers (requests : Nat → Request K) (robot : Robot K) (thread : Nat) :
    Program (effects K) (Except Exc (Reply K) × Robot K) :=
  handle (requests thread) robot

/-- The events of a server with these requests: each thread runs its handler, after its
request has come in and before its reply goes out. -/
structure ServerRun (requests : Nat → Request K) (start : ServerState K)
    (events : List (ServerEvent K)) : Prop where
  started : start.Started
  run : Run server (handlers requests start.robot) start events
  received : ∀ pre thread c post, events = pre ++ .call thread c :: post →
    .env (.receive thread) ∈ pre
  replied : ∀ pre thread post, events = pre ++ .env (.reply thread) :: post →
    ∃ out, Trace (handlers requests start.robot thread) (callsOf thread pre) (.done out)

namespace ServerRun

variable {requests : Nat → Request K} {start : ServerState K} {events : List (ServerEvent K)}

theorem initial {pre post : List (ServerEvent K)} (run : ServerRun requests start (pre ++ post)) :
    ServerRun requests start pre where
  started := run.started
  run := run.run.initial
  received := by
    intro before thread c after split
    exact run.received before thread c (after ++ post) (by rw [split]; simp)
  replied := by
    intro before thread after split
    exact run.replied before thread (after ++ post) (by rw [split]; simp)

theorem allowed {σ : Type} {m : Monitor (effects K) σ} {watch : σ} {thread : Nat}
    {post : Except Exc (Reply K) → Robot K → σ → Prop} (run : ServerRun requests start events)
    (free : ∀ s c, m.admits s c)
    (kept : Script.wp m (handle (requests thread)) post start.robot watch)
    {pre rest : List (ServerEvent K)} {c : Call (effects K)}
    (split : events = pre ++ .call thread c :: rest) :
    m.allows (m.run watch (callsOf thread pre)) c.op := by
  subst split
  have watched : (handlers requests start.robot thread).wp m
      (fun out s => post out.1 out.2 s) watch := kept
  exact run.run.allowed watched (m.admitted_of_forall free watch _)

end ServerRun

/-! ### Building runs -/

/-- Every call comes after its request, given those received before. -/
def Orderly : List Nat → List (ServerEvent K) → Prop
  | _, [] => True
  | received, .env (.receive thread) :: rest => Orderly (thread :: received) rest
  | received, .env _ :: rest => Orderly received rest
  | received, .call thread _ :: rest => thread ∈ received ∧ Orderly received rest

theorem Orderly.received {received : List Nat} {events pre post : List (ServerEvent K)}
    {thread : Nat} {c : Call (effects K)} (orderly : Orderly received events)
    (split : events = pre ++ .call thread c :: post) :
    thread ∈ received ∨ .env (.receive thread) ∈ pre := by
  induction pre generalizing received events with
  | nil =>
      subst split
      exact Or.inl orderly.1
  | cons e pre ih =>
      subst split
      cases e with
      | call t d =>
          rcases ih orderly.2 rfl with before | inside
          · exact Or.inl before
          · exact Or.inr (List.mem_cons_of_mem _ inside)
      | env move =>
          cases move with
          | receive t =>
              have later : Orderly (t :: received) (pre ++ .call thread c :: post) := orderly
              rcases ih later rfl with before | inside
              · rcases List.mem_cons.mp before with same | earlier
                · subst same
                  exact Or.inr List.mem_cons_self
                · exact Or.inl earlier
              · exact Or.inr (List.mem_cons_of_mem _ inside)
          | _ =>
              have later : Orderly received (pre ++ .call thread c :: post) := orderly
              rcases ih later rfl with before | inside
              · exact Or.inl before
              · exact Or.inr (List.mem_cons_of_mem _ inside)

noncomputable def freshServer : ServerState ℝ :=
  { now := 0, lease := { ttl := 2 }, robot := Robot.init {} tabletop }

/-- The owner acquires a free lease. -/
noncomputable def acquires (thread : Nat) (owner : String) (now : ℝ) : List (ServerEvent ℝ) :=
  [.env (.receive thread), .call thread ⟨.leaseOwner, ""⟩,
    .call thread ⟨.leaseAcquire owner false, .ok (owner, now + 2)⟩,
    .call thread ⟨.cancelClear, ()⟩]

noncomputable def checksIn (thread : Nat) (owner : String) (now : ℝ) : List (ServerEvent ℝ) :=
  [.env (.receive thread), .call thread ⟨.leaseCheck owner, .ok ()⟩,
    .call thread ⟨.leaseHeartbeat owner, .ok (now + 2)⟩,
    .call thread ⟨.setFacadeOwner owner, ()⟩]

end FlexivControl
