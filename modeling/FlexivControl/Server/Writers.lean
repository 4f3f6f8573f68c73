/-
One writer at a time.

Three kinds of threads write to the backend: the handlers, the servo loops and the thread
that shuts the server down. A write takes time, so it is begun in one step and ends in
another. Two writes of the source stand outside the robot lock: the stop of a servo loop
whose pass has raised, and the last stop of the shutdown.
-/

import FlexivControl.Library.Staged
import FlexivControl.Loop.ControlLoop
import FlexivControl.Server.Exclusion

namespace FlexivControl

open Pool Script

variable {K : Type} [Scalar K]

/-- Closing the socket and disconnecting are no operations. -/
def shutdown : RobotM K Unit := do
  stopTaken (← withRobotLock takeLoop)
  stop

def writeAll : List (BackendCall K) → RobotM K Unit
  | [] => pure ()
  | call :: rest => do
      let _ ← perform (.write call)
      writeAll rest

/-- The writes of a pass. Its write section has the lock; the stop after an exception
does not. -/
def servoPass (t : Tick K) : RobotM K Unit :=
  match t.before.arrive t.input with
  | (.error _, _) => writeAll [.stop]
  | (.ok snap, loop) =>
      match writeSection t.input snap loop.robot { loop := loop } with
      | (.error _, pass) => do
          withRobotLock (writeAll pass.calls)
          writeAll [.stop]
      | (.ok _, pass) => withRobotLock (writeAll pass.calls)

def servoThread : List (Tick K) → RobotM K Unit
  | [] => pure ()
  | t :: rest => do
      servoPass t
      servoThread rest

/-- A thread of the server process that may write to the backend. -/
inductive Writer (K : Type) [Scalar K] where
  | handler (request : Request K)
  | servo (loop : ReactiveServoLoop K) (inputs : List (TickInput K))
  | shutdown

def Writer.script : Writer K → RobotM K Unit
  | .handler request => do
      let _ ← handle request
      pure ()
  | .servo loop inputs => servoThread (loop.runInner inputs)
  | .shutdown => FlexivControl.shutdown

def Op.written : Op K → Option (BackendCall K)
  | .write call => some call
  | _ => none

def Op.isWrite (op : Op K) : Bool := op.written.isSome

abbrev WriterEvent (K : Type) [Scalar K] := Event (staged (effects K)) Nat (Move K)

/-- A run of the process from a state in which nobody has the lock. -/
structure WriterRun (writers : Nat → Writer K) (start : ServerState K)
    (events : List (WriterEvent K)) : Prop where
  unlocked : start.lockHolder = none
  run : Run server.staged (fun t => announce Op.isWrite ((writers t).script start.robot)) start
    events

/-- The thread has begun this write and not ended it. -/
def Writing (events : List (WriterEvent K)) (t : Nat) (call : BackendCall K) : Prop :=
  underway (callsOf t events) = some (.write call)

/-- A step of a thread that takes no time. -/
def step (t : Nat) (op : Op K) (answer : Op.Resp op) : WriterEvent K :=
  .call t (⟨.finish op, answer⟩ : Call (staged (effects K)))

def begins (t : Nat) (call : BackendCall K) : WriterEvent K :=
  .call t (⟨.start (.write call), ()⟩ : Call (staged (effects K)))

/-- No pass of the loop raises. -/
def Writer.Steady : Writer K → Prop
  | .servo loop inputs => ∀ t ∈ loop.runInner inputs, t.result.raised = none
  | _ => True

section Discipline

variable {greets : Prop} {trusts : Call (effects K) → Prop}

theorem uses_writeAll (calls : List (BackendCall K)) :
    Uses (S := effects K) (fun op => ¬ op.IsLock) (writeAll calls) := by
  induction calls with
  | nil => exact uses_pure ()
  | cons call rest ih => exact Uses.bind (uses_op id) fun _ => ih

theorem keepsLock_servoPass {t : Tick K} (steady : t.result.raised = none) :
    KeepsLock greets trusts (servoPass t) := by
  unfold servoPass
  unfold Tick.result ReactiveServoLoop.tick at steady
  cases arrived : t.before.arrive t.input with
  | mk result loop =>
      rw [arrived] at steady
      cases result with
      | error e => cases steady
      | ok snap =>
          dsimp only at steady ⊢
          cases wrote : writeSection t.input snap loop.robot { loop := loop } with
          | mk result pass =>
              rw [wrote] at steady
              cases result with
              | error e => cases steady
              | ok a => exact keepsLock_withRobotLock (uses_writeAll pass.calls)

theorem keepsLock_servoThread (ticks : List (Tick K))
    (steady : ∀ t ∈ ticks, t.result.raised = none) :
    KeepsLock greets trusts (servoThread ticks) := by
  induction ticks with
  | nil => exact .pure ()
  | cons t rest ih =>
      apply (keepsLock_servoPass (steady t List.mem_cons_self)).bind
      intro _
      exact ih fun u later => steady u (List.mem_cons_of_mem _ later)

theorem keepsLock_shutdown :
    KeepsLock (K := K) greets (fun c => c.op ≠ .cancelSet) shutdown := by
  apply keepsLock_takeLoop.bind
  intro taken
  apply (keepsLock_stopTaken taken).bind
  intro _ robot
  unfold stop
  rw [wp_bind, wp_op]
  exact ⟨⟨fun takes => absurd takes id, fun needs => absurd needs id⟩,
    fun _ unstopped => absurd rfl unstopped⟩

theorem Writer.keepsLock {writer : Writer K} (steady : writer.Steady) :
    KeepsLock True (fun c => writer = .shutdown → c.op ≠ .cancelSet) writer.script := by
  cases writer with
  | handler request =>
      exact (handle_keepsLock request fun _ => trivial).bind fun _ => .pure ()
  | servo loop inputs => exact keepsLock_servoThread _ steady
  | shutdown =>
      have same : (fun c : Call (effects K) =>
          Writer.shutdown (K := K) = .shutdown → c.op ≠ .cancelSet) = fun c => c.op ≠ .cancelSet :=
        funext fun c => propext ⟨fun holds => holds rfl, fun holds _ => holds⟩
      rw [same]
      exact keepsLock_shutdown

end Discipline

/-- As long as no pass has raised and the shutdown has not come to its last stop, a thread
that writes has the robot lock, and no two threads write at a time. -/
theorem one_writer_at_a_time {writers : Nat → Writer K} {start : ServerState K}
    {events : List (WriterEvent K)} (run : WriterRun writers start events)
    (steady : ∀ t, (writers t).Steady)
    (unstopped : ∀ t, writers t = .shutdown →
      ∀ c ∈ finished (callsOf t events), c.op ≠ .cancelSet) :
    (∀ t call, Writing events t call →
      (server.staged.run start events).lockHolder = some (.handler t)) ∧
    ∀ t u call call', Writing events t call → Writing events u call' → t = u := by
  have free : ∀ t, start.lockHolder ≠ some (.handler t) := by
    intro t
    rw [run.unlocked]
    exact fun impossible => by cases impossible
  have disciplined : ∀ t, Program.wp ((robotLock True).discipline
      fun c => writers t = .shutdown → c.op ≠ .cancelSet)
      ((writers t).script start.robot) (fun _ held => held = false) false :=
    fun t => (writers t).keepsLock (steady t) start.robot
  have trusted : ∀ t, ∀ c ∈ finished (callsOf t events), writers t = .shutdown →
      c.op ≠ .cancelSet := fun t c made shuts => unstopped t shuts c made
  constructor
  · intro t call writing
    exact (robotLock_guards True).inside_holds free disciplined run.run trusted writing trivial
  · intro t u call call' writing writing'
    exact (robotLock_guards True).inside_unique free disciplined run.run trusted writing trivial
      writing' trivial

/-! ### Two writers at a time -/

def stoppedAtShutdown : Nat → Writer ℝ
  | 0 => .handler .stop
  | 1 => .shutdown
  | _ => .handler .ping

noncomputable def stopBegun : List (WriterEvent ℝ) :=
  [step 1 .lockAcquire freshServer.robot, step 1 .loopTake none,
    step 1 (.lockRelease freshServer.robot) (),
    step 0 .cancelSet (), step 0 .lockTryAcquire (some freshServer.robot), step 0 .loopTake none,
    step 0 (.lockRelease freshServer.robot) (),
    step 0 .lockTryAcquire (some freshServer.robot), step 0 .cancelSet (), begins 0 .stop]

noncomputable def shutdownStops : List (WriterEvent ℝ) :=
  [step 1 .cancelSet (), begins 1 .stop]

theorem stopBegun_run : WriterRun stoppedAtShutdown freshServer stopBegun where
  unlocked := rfl
  run := by
    constructor
    · norm_num +decide [stopBegun, step, begins, Machine.Valid, Machine.staged, server,
        ServerState.Enabled, ServerState.Answers, ServerState.next, ServerState.afterCall,
        freshServer]
    · rintro (_ | _ | _)
      · exact ⟨_, .cons (.cons (.cons (.cons (.cons (.cons (.cons (.nil _)))))))⟩
      · exact ⟨_, .cons (.cons (.cons (.nil _)))⟩
      · exact ⟨_, .nil _⟩

theorem one_writer_at_a_time_stopBegun :
    (server.staged.run freshServer stopBegun).lockHolder = some (.handler 0) := by
  have steady : ∀ t, (stoppedAtShutdown t).Steady := by
    rintro (_ | _ | _)
    · trivial
    · trivial
    · trivial
  have unstopped : ∀ t, stoppedAtShutdown t = .shutdown →
      ∀ c ∈ finished (callsOf t stopBegun), c.op ≠ .cancelSet := by
    rintro (_ | _ | _) shuts
    · cases shuts
    · change ∀ c ∈ ([⟨.lockAcquire, freshServer.robot⟩, ⟨.loopTake, none⟩,
          ⟨.lockRelease freshServer.robot, ()⟩] : List (Call (effects ℝ))), _
      intro c made
      simp only [List.mem_cons, List.not_mem_nil, or_false] at made
      rcases made with same | same | same
      · subst same
        exact fun impossible => by cases impossible
      · subst same
        exact fun impossible => by cases impossible
      · subst same
        exact fun impossible => by cases impossible
    · cases shuts
  exact (one_writer_at_a_time stopBegun_run steady unstopped).1 0 .stop rfl

theorem shutdownStops_run :
    WriterRun stoppedAtShutdown freshServer (stopBegun ++ shutdownStops) where
  unlocked := rfl
  run := by
    constructor
    · norm_num +decide [stopBegun, shutdownStops, step, begins, Machine.Valid, Machine.staged,
        server, ServerState.Enabled, ServerState.Answers, ServerState.next,
        ServerState.afterCall, freshServer]
    · rintro (_ | _ | _)
      · exact ⟨_, .cons (.cons (.cons (.cons (.cons (.cons (.cons (.nil _)))))))⟩
      · exact ⟨_, .cons (.cons (.cons (.cons (.cons (.nil _)))))⟩
      · exact ⟨_, .nil _⟩

/-- The stop RPC and the shutdown both stop the backend at once. -/
theorem two_writers_at_shutdown :
    ∃ (writers : Nat → Writer ℝ) (start : ServerState ℝ) (events : List (WriterEvent ℝ))
      (t u : Nat) (call call' : BackendCall ℝ),
      WriterRun writers start events ∧ Writing events t call ∧ Writing events u call' ∧ t ≠ u :=
  ⟨stoppedAtShutdown, freshServer, stopBegun ++ shutdownStops, 0, 1, .stop, .stop,
    shutdownStops_run, rfl, rfl, Nat.zero_ne_one⟩

end FlexivControl
