/-
`stop` against the thread it stops.

The thread tests the running flag once a pass, reads the robot and decides without the
writer lock, and only then waits for it. `stop` lowers the flag, joins the thread for at
most two seconds and takes the lock for its own last call. A pass that passed its test
before is finished whenever the lock comes free, before that call or after it.
-/

import FlexivControl.Loop.Holding

namespace FlexivControl

section Race

variable {K : Type} [Scalar K]

inductive ThreadCall (K : Type) [Scalar K] where
  | readState
  | inFault
  | write (call : BackendCall K)

/-- The calls of a pass before it wants the lock: the fault is asked for once a state is read. -/
def TickInput.reads (input : TickInput K) : List (ThreadCall K) :=
  match input.state with
  | .error _ => [.readState]
  | .ok _ => [.readState, .inFault]

/-- Where the thread stands: about to test the flag, past the test, waiting for the lock
with its decision taken, holding the lock, in the handler of an exception, or gone. -/
inductive ThreadPhase (K : Type) [Scalar K] where
  | top
  | reading
  | waiting (input : TickInput K) (snap : Snapshot K)
  | writing (input : TickInput K) (snap : Snapshot K)
  | crashing
  | ended

inductive StopPhase where
  | idle
  | joining
  | waiting
  | writing
  | returned
  deriving DecidableEq, Repr

/-- The loop, its thread, one call of `stop` and the other users of the writer lock. -/
structure StopRace (K : Type) [Scalar K] where
  loop : ReactiveServoLoop K
  thread : ThreadPhase K
  stopper : StopPhase := .idle
  lockedElsewhere : Bool := false
  calls : List (ThreadCall K) := []

def ThreadPhase.holdsLock : ThreadPhase K → Bool
  | .writing _ _ => true
  | _ => false

def ThreadPhase.hasEnded : ThreadPhase K → Bool
  | .ended => true
  | _ => false

def StopRace.lockFree (race : StopRace K) : Bool :=
  !race.lockedElsewhere && !race.thread.holdsLock && race.stopper ≠ .writing

inductive RaceEvent (K : Type) [Scalar K] where
  | publish (publication : Publication K)
  | lockElsewhere
  | unlockElsewhere
  | test
  | arrive (input : TickInput K)
  | acquire
  | write
  | handleCrash
  | callStop
  | joined
  | joinTimesOut
  | stopAcquires
  | stopBackend

def StopRace.raise (race : StopRace K) (loop : ReactiveServoLoop K)
    (calls : List (ThreadCall K)) : StopRace K :=
  { race with loop := loop, thread := .crashing, calls := race.calls ++ calls }

/-- One step; a step out of turn leaves everything as it is. -/
def StopRace.step (race : StopRace K) : RaceEvent K → StopRace K
  | .publish publication => { race with loop := publication.apply race.loop }
  | .lockElsewhere => if race.lockFree then { race with lockedElsewhere := true } else race
  | .unlockElsewhere => { race with lockedElsewhere := false }
  | .test =>
      match race.thread with
      | .top => { race with thread := if race.loop.running then .reading else .ended }
      | _ => race
  | .arrive input =>
      match race.thread with
      | .reading =>
          match race.loop.arrive input with
          | (.error _, loop) => race.raise loop input.reads
          | (.ok snap, loop) =>
              { race with
                loop := loop
                thread := .waiting input snap
                calls := race.calls ++ input.reads }
      | _ => race
  | .acquire =>
      match race.thread with
      | .waiting input snap =>
          if race.lockFree then { race with thread := .writing input snap } else race
      | _ => race
  | .write =>
      match race.thread with
      | .writing input snap =>
          match writeSection input snap race.loop.robot { loop := race.loop } with
          | (.error _, pass) => race.raise pass.loop (pass.calls.map .write)
          | (.ok _, pass) =>
              { race with
                loop := pass.loop.diagnose input
                thread := .top
                calls := race.calls ++ pass.calls.map .write }
      | _ => race
  | .handleCrash =>
      match race.thread with
      | .crashing =>
          { race with
            loop := { race.loop.report .fault .backendFault with running := false }
            thread := .ended
            calls := race.calls ++ [.write .stop] }
      | _ => race
  | .callStop =>
      if race.stopper = .idle then
        { race with loop := { race.loop with running := false }, stopper := .joining }
      else race
  | .joined =>
      if race.stopper = .joining ∧ race.thread.hasEnded = true then
        { race with stopper := .waiting }
      else race
  | .joinTimesOut =>
      if race.stopper = .joining ∧ race.thread.hasEnded = false then
        { race with stopper := .waiting }
      else race
  | .stopAcquires =>
      if race.stopper = .waiting ∧ race.lockFree = true then { race with stopper := .writing }
      else race
  | .stopBackend => if race.stopper = .writing then { race with stopper := .returned } else race

def StopRace.run (race : StopRace K) (events : List (RaceEvent K)) : StopRace K :=
  events.foldl StopRace.step race

theorem StopRace.run_cons (race : StopRace K) (event : RaceEvent K) (events : List (RaceEvent K)) :
    race.run (event :: events) = (race.step event).run events := rfl

theorem StopRace.run_append (race : StopRace K) (events more : List (RaceEvent K)) :
    race.run (events ++ more) = (race.run events).run more := List.foldl_append

def ThreadCall.written : ThreadCall K → Option (BackendCall K)
  | .write call => some call
  | _ => none

theorem written_writes (calls : List (BackendCall K)) :
    (calls.map ThreadCall.write).filterMap ThreadCall.written = calls := by
  rw [List.filterMap_map]
  exact List.filterMap_some

def StopRace.written (race : StopRace K) : List (BackendCall K) :=
  race.calls.filterMap ThreadCall.written

def passEvents (input : TickInput K) : List (RaceEvent K) :=
  [.test, .arrive input, .acquire, .write, .handleCrash]

/-- Left alone, the thread's steps make up one pass of the loop. -/
theorem StopRace.pass_eq_tick {loop : ReactiveServoLoop K} (running : loop.running = true)
    (input : TickInput K) :
    let race : StopRace K := { loop := loop, thread := .top }
    (race.run (passEvents input)).loop = (loop.tick input).loop ∧
      (race.run (passEvents input)).written = (loop.tick input).calls := by
  intro race
  have unread : input.reads.filterMap ThreadCall.written = [] := by
    unfold TickInput.reads
    split <;> rfl
  have tested : race.step .test = { loop := loop, thread := .reading } := by
    change { race with thread := if loop.running then .reading else .ended } = _
    rw [if_pos running]
  rw [passEvents, run_cons, tested, run_cons]
  unfold ReactiveServoLoop.tick StopRace.step
  dsimp only
  cases loop.arrive input with
  | mk out arrived =>
      cases out with
      | error e =>
          refine ⟨rfl, ?_⟩
          change (([] ++ input.reads) ++ [ThreadCall.write .stop]).filterMap ThreadCall.written = _
          rw [List.nil_append, List.filterMap_append, unread]
          rfl
      | ok snap =>
          dsimp only
          change (StopRace.run ⟨arrived, .writing input snap, .idle, false, [] ++ input.reads⟩
              [.write, .handleCrash]).loop = _ ∧
            (StopRace.run ⟨arrived, .writing input snap, .idle, false, [] ++ input.reads⟩
              [.write, .handleCrash]).written = _
          rw [run_cons]
          unfold StopRace.step
          dsimp only
          cases writeSection input snap arrived.robot { loop := arrived } with
          | mk raised pass =>
              cases raised with
              | error e =>
                  refine ⟨rfl, ?_⟩
                  change (([] ++ input.reads ++ pass.calls.map ThreadCall.write) ++
                    [ThreadCall.write .stop]).filterMap ThreadCall.written = _
                  rw [List.nil_append, List.filterMap_append, List.filterMap_append, unread,
                    written_writes]
                  rfl
              | ok _ =>
                  refine ⟨rfl, ?_⟩
                  change ([] ++ input.reads ++ pass.calls.map ThreadCall.write).filterMap
                    ThreadCall.written = _
                  rw [List.nil_append, List.filterMap_append, unread, written_writes]
                  rfl

/-- The thread is neither inside a pass nor in its handler. -/
def ThreadPhase.Between : ThreadPhase K → Prop
  | .top => True
  | .ended => True
  | _ => False

/-- The thread makes no call any more, whatever happens. -/
def StopRace.Over (race : StopRace K) : Prop := ∀ later, (race.run later).calls = race.calls

/-- It streams nothing, starts no mode and stops nothing any more. -/
def StopRace.WritesNoMore (race : StopRace K) : Prop :=
  ∀ later, (race.run later).written = race.written

/-! ### After the flag is down -/

theorem Publication.apply_stopped (p : Publication K) {loop : ReactiveServoLoop K}
    (stopped : loop.running = false) : (p.apply loop).running = false := by
  cases p with
  | cartesianTarget pose gripper now =>
      unfold Publication.apply ReactiveServoLoop.setCartesianTarget
      dsimp only
      split
      · exact stopped
      · exact stopped
  | jointTarget q now => exact stopped
  | enqueueChunk chunk s now =>
      unfold Publication.apply ReactiveServoLoop.enqueueChunk
      dsimp only
      split
      · exact stopped
      · exact stopped
  | safetyProfile profile => exact stopped
  | halt => rfl

theorem ReactiveServoLoop.absorb_stopped (gap : List (Publication K)) :
    ∀ {loop : ReactiveServoLoop K}, loop.running = false → (loop.absorb gap).running = false := by
  induction gap with
  | nil => exact fun stopped => stopped
  | cons p rest ih => exact fun stopped => ih (p.apply_stopped stopped)

theorem ReactiveServoLoop.arrive_stopped (input : TickInput K) {loop : ReactiveServoLoop K}
    (stopped : loop.running = false) : (loop.arrive input).2.running = false := by
  have fetched (loop : ReactiveServoLoop K) : loop.fetchChunk.2.running = loop.running := by
    unfold ReactiveServoLoop.fetchChunk
    split <;> rfl
  have advanced (loop : ReactiveServoLoop K) (next : ChunkNext K) (now : K) :
      (loop.advance next now).running = loop.running := by
    cases next <;> rfl
  have prepared (state : RobotState K) : (loop.prepare input state).running = false := by
    unfold ReactiveServoLoop.prepare
    dsimp only
    apply ReactiveServoLoop.absorb_stopped
    rw [advanced]
    apply ReactiveServoLoop.absorb_stopped
    rw [fetched]
    exact ReactiveServoLoop.absorb_stopped input.beforeFetch stopped
  unfold ReactiveServoLoop.arrive
  split
  · exact stopped
  · dsimp only
    split
    · exact prepared _
    · exact ReactiveServoLoop.absorb_stopped input.beforeWrite (prepared _)

theorem writeSection_stopped (input : TickInput K) (snap : Snapshot K) (robot : Robot K)
    (pass : Pass K) (stopped : pass.loop.running = false) :
    (writeSection input snap robot pass).2.loop.running = false := by
  obtain ⟨_, _, _, left⟩ := keepsFrame_writeSection input snap robot pass
  rw [left]
  exact stopped

def RaceEvent.ofThread : RaceEvent K → Bool
  | .test => true
  | .arrive _ => true
  | .acquire => true
  | .write => true
  | .handleCrash => true
  | _ => false

section Steps

variable {race : StopRace K} {event : RaceEvent K}

theorem StopRace.step_of_others (others : event.ofThread = false) :
    (race.step event).thread = race.thread ∧ (race.step event).calls = race.calls ∧
      (race.loop.running = false → (race.step event).loop.running = false) := by
  cases event with
  | publish p => exact ⟨rfl, rfl, fun stopped => p.apply_stopped stopped⟩
  | unlockElsewhere => exact ⟨rfl, rfl, id⟩
  | lockElsewhere =>
      unfold StopRace.step
      dsimp only
      split
      · exact ⟨rfl, rfl, id⟩
      · exact ⟨rfl, rfl, id⟩
  | callStop =>
      unfold StopRace.step
      dsimp only
      split
      · exact ⟨rfl, rfl, fun _ => rfl⟩
      · exact ⟨rfl, rfl, id⟩
  | joined =>
      unfold StopRace.step
      dsimp only
      split
      · exact ⟨rfl, rfl, id⟩
      · exact ⟨rfl, rfl, id⟩
  | joinTimesOut =>
      unfold StopRace.step
      dsimp only
      split
      · exact ⟨rfl, rfl, id⟩
      · exact ⟨rfl, rfl, id⟩
  | stopAcquires =>
      unfold StopRace.step
      dsimp only
      split
      · exact ⟨rfl, rfl, id⟩
      · exact ⟨rfl, rfl, id⟩
  | stopBackend =>
      unfold StopRace.step
      dsimp only
      split
      · exact ⟨rfl, rfl, id⟩
      · exact ⟨rfl, rfl, id⟩
  | test => cases others
  | arrive input => cases others
  | acquire => cases others
  | write => cases others
  | handleCrash => cases others

/-- The thread's steps leave the call of `stop` where it stands and do not raise the flag. -/
theorem StopRace.step_of_thread (mine : event.ofThread = true) :
    (race.step event).stopper = race.stopper ∧
      (race.loop.running = false → (race.step event).loop.running = false) := by
  cases event with
  | test =>
      unfold StopRace.step
      dsimp only
      split
      · exact ⟨rfl, id⟩
      · exact ⟨rfl, id⟩
  | arrive input =>
      unfold StopRace.step
      dsimp only
      split
      · have later := race.loop.arrive_stopped input
        cases arrival : race.loop.arrive input with
        | mk out loop =>
            rw [arrival] at later
            cases out with
            | error e => exact ⟨rfl, later⟩
            | ok snap => exact ⟨rfl, later⟩
      · exact ⟨rfl, id⟩
  | acquire =>
      unfold StopRace.step
      dsimp only
      split
      · split
        · exact ⟨rfl, id⟩
        · exact ⟨rfl, id⟩
      · exact ⟨rfl, id⟩
  | write =>
      unfold StopRace.step
      dsimp only
      split
      · rename_i input snap _
        have later := writeSection_stopped input snap race.loop.robot { loop := race.loop }
        cases ran : writeSection input snap race.loop.robot { loop := race.loop } with
        | mk raised pass =>
            rw [ran] at later
            cases raised with
            | error e => exact ⟨rfl, later⟩
            | ok _ => exact ⟨rfl, fun stopped => (diagnose_running _ _).trans (later stopped)⟩
      · exact ⟨rfl, id⟩
  | handleCrash =>
      unfold StopRace.step
      dsimp only
      split
      · exact ⟨rfl, fun _ => rfl⟩
      · exact ⟨rfl, id⟩
  | publish p => cases mine
  | lockElsewhere => cases mine
  | unlockElsewhere => cases mine
  | callStop => cases mine
  | joined => cases mine
  | joinTimesOut => cases mine
  | stopAcquires => cases mine
  | stopBackend => cases mine

theorem StopRace.step_of_ended (mine : event.ofThread = true) (ended : race.thread = .ended) :
    race.step event = race := by
  unfold StopRace.step
  cases event with
  | test => dsimp only; rw [ended]
  | arrive input => dsimp only; rw [ended]
  | acquire => dsimp only; rw [ended]
  | write => dsimp only; rw [ended]
  | handleCrash => dsimp only; rw [ended]
  | publish p => cases mine
  | lockElsewhere => cases mine
  | unlockElsewhere => cases mine
  | callStop => cases mine
  | joined => cases mine
  | joinTimesOut => cases mine
  | stopAcquires => cases mine
  | stopBackend => cases mine

theorem StopRace.step_of_top (mine : event.ofThread = true) (top : race.thread = .top)
    (stopped : race.loop.running = false) :
    race.step event = race ∨ race.step event = { race with thread := .ended } := by
  unfold StopRace.step
  cases event with
  | test =>
      right
      dsimp only
      rw [top, stopped]
      rfl
  | arrive input => left; dsimp only; rw [top]
  | acquire => left; dsimp only; rw [top]
  | write => left; dsimp only; rw [top]
  | handleCrash => left; dsimp only; rw [top]
  | publish p => cases mine
  | lockElsewhere => cases mine
  | unlockElsewhere => cases mine
  | callStop => cases mine
  | joined => cases mine
  | joinTimesOut => cases mine
  | stopAcquires => cases mine
  | stopBackend => cases mine

/-- Only its call brings `stop` under way. -/
theorem StopRace.step_of_idle (others : event.ofThread = false) (idle : race.stopper = .idle) :
    (race.step event).stopper = .idle ∨ (race.step event).loop.running = false := by
  unfold StopRace.step
  cases event with
  | publish p => exact Or.inl idle
  | unlockElsewhere => exact Or.inl idle
  | lockElsewhere =>
      left
      dsimp only
      split
      · exact idle
      · exact idle
  | callStop =>
      right
      dsimp only
      rw [if_pos idle]
  | joined =>
      left
      dsimp only
      rw [if_neg (fun ready => by rw [idle] at ready; cases ready.1)]
      exact idle
  | joinTimesOut =>
      left
      dsimp only
      rw [if_neg (fun ready => by rw [idle] at ready; cases ready.1)]
      exact idle
  | stopAcquires =>
      left
      dsimp only
      rw [if_neg (fun ready => by rw [idle] at ready; cases ready.1)]
      exact idle
  | stopBackend =>
      left
      dsimp only
      rw [if_neg (fun ready => by rw [idle] at ready; cases ready)]
      exact idle
  | test => cases others
  | arrive input => cases others
  | acquire => cases others
  | write => cases others
  | handleCrash => cases others

theorem StopRace.step_stopped (stopped : race.loop.running = false) :
    (race.step event).loop.running = false := by
  cases whose : event.ofThread with
  | true => exact (step_of_thread whose).2 stopped
  | false => exact (step_of_others whose).2.2 stopped

end Steps

/-! ### After the call of stop -/

def StopRace.FlagDown (race : StopRace K) : Prop :=
  race.stopper = .idle ∨ race.loop.running = false

theorem StopRace.FlagDown.step {race : StopRace K} (down : race.FlagDown) (event : RaceEvent K) :
    (race.step event).FlagDown := by
  rcases down with idle | stopped
  · cases whose : event.ofThread with
    | true => exact Or.inl ((step_of_thread whose).1.trans idle)
    | false => exact step_of_idle whose idle
  · exact Or.inr (step_stopped stopped)

theorem StopRace.FlagDown.run (events : List (RaceEvent K)) :
    ∀ {race : StopRace K}, race.FlagDown → (race.run events).FlagDown := by
  induction events with
  | nil => exact fun down => down
  | cons event rest ih => exact fun down => ih (down.step event)

/-- Between passes with the flag down: the thread only ends. -/
structure StopRace.Quiet (race : StopRace K) : Prop where
  between : race.thread.Between
  stopped : race.loop.running = false

theorem StopRace.Quiet.step {race : StopRace K} (quiet : race.Quiet) (event : RaceEvent K) :
    (race.step event).Quiet ∧ (race.step event).calls = race.calls := by
  have stopped : (race.step event).loop.running = false := step_stopped quiet.stopped
  cases whose : event.ofThread with
  | false =>
      obtain ⟨thread, calls, _⟩ := race.step_of_others whose
      refine ⟨⟨?_, stopped⟩, calls⟩
      rw [thread]
      exact quiet.between
  | true =>
      have between := quiet.between
      cases thread : race.thread with
      | top =>
          rcases race.step_of_top whose thread quiet.stopped with same | ended
          · rw [same]
            exact ⟨quiet, rfl⟩
          · rw [ended]
            exact ⟨⟨trivial, quiet.stopped⟩, rfl⟩
      | ended =>
          rw [race.step_of_ended whose thread]
          exact ⟨quiet, rfl⟩
      | reading => rw [thread] at between; exact absurd between id
      | waiting input snap => rw [thread] at between; exact absurd between id
      | writing input snap => rw [thread] at between; exact absurd between id
      | crashing => rw [thread] at between; exact absurd between id

theorem StopRace.Quiet.no_calls (later : List (RaceEvent K)) :
    ∀ {race : StopRace K}, race.Quiet → (race.run later).calls = race.calls := by
  induction later with
  | nil => exact fun _ => rfl
  | cons event rest ih =>
      intro race quiet
      obtain ⟨quiet', same⟩ := quiet.step event
      exact (ih quiet').trans same

theorem ThreadPhase.hasEnded_iff {thread : ThreadPhase K} :
    thread.hasEnded = true ↔ thread = .ended := by
  constructor
  · intro ended
    unfold hasEnded at ended
    split at ended
    · rfl
    · cases ended
  · intro ended
    rw [ended]
    rfl

def StopRace.Joins (race : StopRace K) : Prop :=
  race.thread = .ended ∨ race.stopper = .idle ∨ race.stopper = .joining

theorem StopRace.step_of_alive {race : StopRace K} {event : RaceEvent K}
    (others : event.ofThread = false) (inTime : event ≠ .joinTimesOut)
    (alive : race.thread ≠ .ended) (early : race.stopper = .idle ∨ race.stopper = .joining) :
    (race.step event).stopper = .idle ∨ (race.step event).stopper = .joining := by
  have notYet (phase : StopPhase) (late : phase ≠ .idle ∧ phase ≠ .joining) :
      race.stopper ≠ phase := by
    intro there
    rcases early with idle | joining
    · exact late.1 (there.symm.trans idle)
    · exact late.2 (there.symm.trans joining)
  unfold StopRace.step
  cases event with
  | publish p => exact early
  | unlockElsewhere => exact early
  | lockElsewhere =>
      dsimp only
      split
      · exact early
      · exact early
  | callStop =>
      dsimp only
      split
      · exact Or.inr rfl
      · exact early
  | joined =>
      dsimp only
      rw [if_neg fun ready => alive (ThreadPhase.hasEnded_iff.mp ready.2)]
      exact early
  | joinTimesOut => exact absurd rfl inTime
  | stopAcquires =>
      dsimp only
      rw [if_neg fun ready => notYet .waiting (by decide) ready.1]
      exact early
  | stopBackend =>
      dsimp only
      rw [if_neg (notYet .writing (by decide))]
      exact early
  | test => cases others
  | arrive input => cases others
  | acquire => cases others
  | write => cases others
  | handleCrash => cases others

theorem StopRace.Joins.step {race : StopRace K} (joins : race.Joins) {event : RaceEvent K}
    (inTime : event ≠ .joinTimesOut) : (race.step event).Joins := by
  by_cases ended : race.thread = .ended
  · left
    cases whose : event.ofThread with
    | true =>
        rw [race.step_of_ended whose ended]
        exact ended
    | false => exact (race.step_of_others whose).1.trans ended
  · right
    have early := joins.resolve_left ended
    cases whose : event.ofThread with
    | true =>
        rw [(race.step_of_thread whose).1]
        exact early
    | false => exact step_of_alive whose inTime ended early

theorem StopRace.Joins.run (events : List (RaceEvent K)) :
    ∀ {race : StopRace K}, race.Joins → RaceEvent.joinTimesOut ∉ events →
      (race.run events).Joins := by
  induction events with
  | nil => exact fun joins _ => joins
  | cons event rest ih =>
      intro race joins inTime
      apply ih (joins.step _)
      · exact fun later => inTime (List.mem_cons_of_mem event later)
      · exact fun same => inTime (same ▸ List.mem_cons_self)

end Race

/-! ### A thread caught inside a pass writes -/

noncomputable def impatient (profile : SafetyProfile ℝ) (snap : Snapshot ℝ) : SafetyProfile ℝ :=
  { profile with stopOnStateStale := true, stateTimeoutMs := snap.stateAgeMs - 1 }

theorem writeSection_impatient (input : TickInput ℝ) (snap : Snapshot ℝ) (robot : Robot ℝ)
    {profile : SafetyProfile ℝ} (swapped : robot.filter.p = impatient profile snap)
    (loop : ReactiveServoLoop ℝ) :
    (writeSection input snap robot { loop := loop }).2.calls = [.stop] := by
  have stops (status : SafetyStatus) (reason : StopReason) :
      (protectiveStop input status reason { loop := loop }).2.calls = [.stop] := by
    unfold protectiveStop
    rw [LoopM.bind_apply]
    unfold command
    dsimp only
    split
    · rename_i accepted
      split at accepted
      · cases accepted
        rfl
      · cases accepted
    · rename_i refused
      split at refused
      · cases refused
      · cases refused
        rfl
  have old : (robot.filter.checkStateAge snap.stateAgeMs).ok = false := by
    unfold SafetyFilter.checkStateAge
    rw [swapped, if_pos ⟨rfl, sub_one_lt _⟩]
  unfold writeSection
  split
  · exact stops _ _
  · rw [old]
    exact stops _ _

section Caught

variable {race : StopRace ℝ} {input : TickInput ℝ} {snap : Snapshot ℝ}

/-- Holding the lock, the thread stops the arm once the profile finds its state too old. -/
theorem StopRace.writing_writes (writing : race.thread = .writing input snap) :
    (race.run [.publish (.safetyProfile (impatient race.loop.robot.profile snap)), .write]).written =
      race.written ++ [.stop] := by
  let swapped : ReactiveServoLoop ℝ := (Publication.safetyProfile
    (impatient race.loop.robot.profile snap)).apply race.loop
  have calls := writeSection_impatient input snap swapped.robot rfl swapped
  change (StopRace.step { race with loop := swapped } .write).written = _
  unfold StopRace.step
  dsimp only
  rw [writing]
  dsimp only
  cases ran : writeSection input snap swapped.robot { loop := swapped } with
  | mk raised pass =>
      rw [ran] at calls
      dsimp only at calls
      have sent : (race.calls ++ pass.calls.map ThreadCall.write).filterMap ThreadCall.written =
          race.written ++ [.stop] := by
        rw [List.filterMap_append, written_writes, calls]
        rfl
      cases raised with
      | error e => exact sent
      | ok _ => exact sent

theorem StopRace.waiting_writes (waiting : race.thread = .waiting input snap)
    (others : race.stopper ≠ .writing) :
    ∃ later, (race.run later).written = race.written ++ [.stop] := by
  have locked : race.run [.unlockElsewhere, .acquire] =
      { race with lockedElsewhere := false, thread := .writing input snap } := by
    have free : ({ race with lockedElsewhere := false } : StopRace ℝ).lockFree = true := by
      unfold StopRace.lockFree
      dsimp only
      rw [waiting]
      exact decide_eq_true others
    change StopRace.step { race with lockedElsewhere := false } .acquire = _
    unfold StopRace.step
    dsimp only
    rw [waiting]
    dsimp only
    rw [waiting] at free
    rw [if_pos free]
  refine ⟨[.unlockElsewhere, .acquire] ++
    [.publish (.safetyProfile (impatient race.loop.robot.profile snap)), .write], ?_⟩
  rw [run_append, locked]
  exact writing_writes rfl

noncomputable def someInput : TickInput ℝ where
  state := .ok { stamp := 0 }
  stateClock := 0
  advanceClock := 0
  ageClock := 0

theorem StopRace.caught_writes (inside : ¬ race.thread.Between) (others : race.stopper ≠ .writing) :
    ∃ later, (race.run later).written = race.written ++ [.stop] := by
  cases thread : race.thread with
  | top => rw [thread] at inside; exact absurd trivial inside
  | ended => rw [thread] at inside; exact absurd trivial inside
  | waiting input snap => exact waiting_writes thread others
  | writing input snap => exact ⟨_, writing_writes thread⟩
  | crashing =>
      refine ⟨[.handleCrash], ?_⟩
      change (StopRace.step race .handleCrash).written = _
      unfold StopRace.step
      dsimp only
      rw [thread]
      exact List.filterMap_append
  | reading =>
      have arrived : (race.run [.arrive someInput]).written = race.written := by
        change (StopRace.step race (.arrive someInput)).written = _
        unfold StopRace.step
        dsimp only
        rw [thread]
        exact List.filterMap_append.trans (List.append_nil _)
      have waiting : ∃ snap, (race.run [.arrive someInput]).thread = .waiting someInput snap := by
        change ∃ snap, (StopRace.step race (.arrive someInput)).thread = .waiting someInput snap
        unfold StopRace.step
        dsimp only
        rw [thread]
        exact ⟨_, rfl⟩
      have others' : (race.run [.arrive someInput]).stopper ≠ .writing := by
        have kept : (race.step (.arrive someInput)).stopper = race.stopper := (step_of_thread rfl).1
        exact fun writing => others (kept.symm.trans writing)
      obtain ⟨snap, waiting⟩ := waiting
      obtain ⟨later, written⟩ := waiting_writes waiting others'
      refine ⟨[.arrive someInput] ++ later, ?_⟩
      rw [run_append, written, arrived]

end Caught

/-- Once `stop` has returned, the thread makes no further call exactly when it was then
between passes or gone: caught inside a pass it can still write. A join that does not time
out returns only after the thread. -/
theorem stop_ends_writing_iff (start : StopRace ℝ) (idle : start.stopper = .idle)
    (events : List (RaceEvent ℝ)) (returned : (start.run events).stopper = .returned) :
    ((start.run events).Over ↔ (start.run events).thread.Between) ∧
      ((start.run events).WritesNoMore ↔ (start.run events).thread.Between) ∧
      (.joinTimesOut ∉ events → (start.run events).thread = .ended) := by
  have down : start.FlagDown := Or.inl idle
  have stopped : (start.run events).loop.running = false := by
    rcases down.run events with idle | stopped
    · rw [returned] at idle
      cases idle
    · exact stopped
  have finished (between : (start.run events).thread.Between) : (start.run events).Over :=
    fun later => StopRace.Quiet.no_calls later ⟨between, stopped⟩
  have silent (finished : (start.run events).Over) : (start.run events).WritesNoMore :=
    fun later => congrArg (List.filterMap ThreadCall.written) (finished later)
  have between (silent : (start.run events).WritesNoMore) : (start.run events).thread.Between := by
    by_contra inside
    have others : (start.run events).stopper ≠ .writing := by
      rw [returned]
      decide
    obtain ⟨later, written⟩ := StopRace.caught_writes inside others
    rw [silent later] at written
    exact List.cons_ne_nil _ _ (List.self_eq_append_right.mp written)
  refine ⟨⟨fun quiet => between (silent quiet), finished⟩,
    ⟨between, fun here => silent (finished here)⟩, ?_⟩
  intro inTime
  have joins : start.Joins := Or.inr (Or.inl idle)
  rcases joins.run events inTime with ended | idle | joining
  · exact ended
  · rw [returned] at idle
    cases idle
  · rw [returned] at joining
    cases joining

noncomputable def servoing : StopRace ℝ where
  loop := (tabletopLoop.start hovering hovering 0 0).2
  thread := .top

/-- The thread is joined in time. -/
theorem stop_ends_writing_iff_joined :
    (servoing.run [.callStop, .test, .joined, .stopAcquires, .stopBackend]).Over := by
  have spec := stop_ends_writing_iff servoing rfl
    [.callStop, .test, .joined, .stopAcquires, .stopBackend] rfl
  exact spec.1.mpr trivial

noncomputable def heldBack : List (RaceEvent ℝ) :=
  [.test, .lockElsewhere, .arrive (waiting (1 / 100)), .callStop, .joinTimesOut,
    .unlockElsewhere, .stopAcquires, .stopBackend]

theorem heldBack_waiting :
    ∃ (snap : Snapshot ℝ) (here : ReactiveServoLoop ℝ), snap.state = hoveringAt (1 / 100) ∧
      snap.WaitsIn here.filter ∧
      servoing.run heldBack =
        { loop := { here with running := false }
          thread := .waiting (waiting (1 / 100)) snap
          stopper := .returned
          calls := (waiting (1 / 100)).reads } := by
  obtain ⟨snap, here, at_write, state, waits, _⟩ := waiting_atWrite tabletopLoop_waits (1 / 100)
  refine ⟨snap, here, state, waits, ?_⟩
  have arrived : servoing.loop.arrive (waiting (1 / 100)) = (.ok snap, here) := by
    unfold Tick.atWrite at at_write
    change _ = _ at at_write
    cases arrival : servoing.loop.arrive (waiting (1 / 100)) with
    | mk out loop =>
        change (tabletopLoop.start hovering hovering 0 0).2.arrive (waiting (1 / 100)) = _ at arrival
        dsimp only at at_write
        rw [arrival] at at_write
        cases out with
        | error e => cases at_write
        | ok snap' =>
            cases at_write
            rfl
  have read : StopRace.step
      { loop := servoing.loop, thread := .reading, lockedElsewhere := true }
      (.arrive (waiting (1 / 100))) =
      { loop := here
        thread := .waiting (waiting (1 / 100)) snap
        lockedElsewhere := true
        calls := (waiting (1 / 100)).reads } := by
    unfold StopRace.step
    dsimp only
    rw [arrived]
    rfl
  change StopRace.run (StopRace.step
      { loop := servoing.loop, thread := .reading, lockedElsewhere := true }
      (.arrive (waiting (1 / 100)))) _ = _
  rw [read]
  rfl

/-- Then the thread takes the lock after `stop` has returned, and streams. -/
theorem heldBack_thread_streams :
    (servoing.run heldBack).stopper = .returned ∧ ¬ (servoing.run heldBack).Over ∧
      (servoing.run heldBack).written = [] ∧
      streamedIn ((servoing.run heldBack).run [.acquire, .write]).written =
        some (.cartesian (hoveringAt (1 / 100)).tcpPose) := by
  obtain ⟨snap, here, state, waits, left⟩ := heldBack_waiting
  have accepting : (waiting (1 / 100)).Accepting := fun _ => rfl
  obtain ⟨calls, streamed, held⟩ := holdPosition_accepted accepting snap.state here.robot
    { here with running := false }
  have ran : writeSection (waiting (1 / 100)) snap here.robot
      { loop := { here with running := false } } = _ := (waits.section_eq _).trans held
  rw [left]
  have wrote : (StopRace.run (servoing.run heldBack) [.acquire, .write]).written = calls := by
    rw [left]
    change (StopRace.step ⟨{ here with running := false }, .writing (waiting (1 / 100)) snap,
      .returned, false, (waiting (1 / 100)).reads⟩ .write).written = calls
    unfold StopRace.step
    dsimp only
    rw [ran]
    change (([.readState, .inFault] : List (ThreadCall ℝ)) ++
      calls.map ThreadCall.write).filterMap ThreadCall.written = calls
    rw [List.filterMap_append, written_writes]
    rfl
  rw [left] at wrote
  refine ⟨rfl, ?_, rfl, ?_⟩
  · intro finished
    have silent := congrArg (List.filterMap ThreadCall.written) (finished [.acquire, .write])
    change StopRace.written _ = [] at silent
    rw [wrote] at silent
    rw [silent] at streamed
    cases streamed
  · rw [wrote, streamed, state]

end FlexivControl
