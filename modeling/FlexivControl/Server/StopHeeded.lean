/-
A stop request and the chunk it is meant for.

The flag a stop sets stays set until the chunk in flight tests it, as long as nobody
greets a fresh owner in between: every other clear is made under the robot lock, which the
chunk's own handler holds.
-/

import FlexivControl.Library.Latch
import FlexivControl.Robot.Cancellation
import FlexivControl.Robot.Rest
import FlexivControl.Server.Exclusion

namespace FlexivControl

open Pool Script

variable {K : Type} [Scalar K]

/-! ### The motion handlers -/

section Motions

variable {σ : Type} {m : Monitor (effects K) σ} {rests : σ → Prop}

namespace FollowsChunks

theorem releaseRobotLock (follows : FollowsChunks m rests) :
    Keeps m (fun _ => rests) (FlexivControl.releaseRobotLock : RobotM K Unit) := by
  intro robot s resting
  unfold FlexivControl.releaseRobotLock
  rw [wp_bind, wp_get, afterStep_ok, wp_op]
  exact ⟨follows.unlocks s robot resting, fun _ _ => follows.unlocked s robot resting⟩

theorem motionLock {α : Type} (follows : FollowsChunks m rests) (owner : String) {x : RobotM K α}
    (kept : Keeps m (fun _ => rests) x) :
    Keeps m (fun _ => rests) (FlexivControl.motionLock owner x) := by
  have slot : Keeps m (fun _ => rests) (FlexivControl.perform .loopSlot : RobotM K (Option Nat)) :=
    follows.perform trivial
  have taken : Keeps m (fun _ => rests) (FlexivControl.perform .lockAcquire : RobotM K (Robot K)) :=
    follows.perform trivial
  have held : Keeps m (fun _ => rests) (holdLease owner x) := by
    unfold holdLease
    split
    · exact kept
    · have enters : Keeps m (fun _ => rests)
          (FlexivControl.perform (.holdEnter owner) : RobotM K (Except Exc Unit)) :=
        follows.perform trivial
      exact enters.bind fun entered => (follows.attempt entered).bind fun _ =>
        kept.ensuring (follows.perform trivial)
  apply taken.bind
  intro robot
  apply (follows.uses_level (uses_set robot)).bind
  intro _
  apply Keeps.ensuring _ follows.releaseRobotLock
  apply slot.bind
  intro found
  cases found with
  | some loop => exact keeps_throw _
  | none => exact held

theorem requireLease (follows : FollowsChunks m rests) (owner : String) :
    Keeps m (fun _ => rests) (FlexivControl.requireLease owner : RobotM K Unit) :=
  follows.uses_level (Uses.bind (uses_op trivial) fun checked => (uses_attempt checked).bind fun _ =>
    Uses.bind (uses_op trivial) fun beat => (uses_attempt beat).bind fun _ => uses_op trivial)

theorem motion {α β γ : Type} (follows : FollowsChunks m rests) (owner : String)
    (params : Except Exc α) {x : α → RobotM K β} (reply : β → γ)
    (kept : ∀ a, Keeps m (fun _ => rests) (x a)) :
    Keeps m (fun _ => rests) (do
      FlexivControl.requireLease owner
      let r ← FlexivControl.motionLock owner (do
        let a ← FlexivControl.attempt params
        x a)
      pure (reply r)) :=
  (follows.requireLease owner).bind fun _ => (follows.motionLock owner
    ((follows.attempt params).bind kept)).bind fun _ => keeps_pure _

theorem handle (follows : FollowsChunks m rests) {request : Request K}
    (motion : request.RunsChunk) : Keeps m (fun _ => rests) (FlexivControl.handle request) := by
  cases request with
  | servoCartesianDelta owner params =>
      exact follows.motion owner params Reply.result
        fun p => follows.servoCartesianDelta _ _ _ _ _
  | servoCartesianPose owner params =>
      exact follows.motion owner params Reply.result fun p => follows.servoCartesianPose _ _ _
  | executeCartesianChunk owner chunk =>
      apply (follows.requireLease owner).bind
      intro _
      apply (follows.attempt chunk).bind
      intro chunk
      exact (follows.motionLock owner (follows.executeCartesianChunk chunk _ _)).bind fun _ =>
        keeps_pure _
  | executeJointChunk owner chunk =>
      apply (follows.requireLease owner).bind
      intro _
      apply (follows.attempt chunk).bind
      intro chunk
      exact (follows.motionLock owner (follows.executeJointChunk chunk _)).bind fun _ =>
        keeps_pure _
  | moveJoint owner params =>
      exact follows.motion owner params Reply.result fun p => follows.moveJoint _ _ _ _
  | home owner q params =>
      apply (follows.requireLease owner).bind
      intro _
      apply (follows.attempt q).bind
      intro q
      exact (follows.motionLock owner ((follows.attempt params).bind fun p =>
        follows.home q p.maxJointSpeed p.duration)).bind fun _ => keeps_pure _
  | goHomeSafe owner q params =>
      apply (follows.requireLease owner).bind
      intro _
      apply (follows.attempt q).bind
      intro q
      exact (follows.motionLock owner ((follows.attempt params).bind fun p =>
        follows.goHomeSafe q _ _ _ _)).bind fun _ => keeps_pure _
  | _ => exact absurd motion id

end FollowsChunks

end Motions

/-! ### Runs -/

def phaseOf (events : List (ServerEvent K)) (thread : Nat) : ChunkPhase :=
  chunkWatch.run .idle (callsOf thread events)

def Op.IsUntested (op : Op K) : Prop := ¬ op.TestsForChunk ∧ op.report = none

/-- The thread obeys a stop already, or it tests the flag again before its chunk is over,
and no fresh owner is greeted before it does. -/
inductive Heeded (requests : Nat → Request K) (before rest : List (ServerEvent K)) (thread : Nat) :
    Prop where
  | already (obeys : phaseOf before thread = .stopping)
  | tests (mid tail : List (ServerEvent K)) (set : Bool)
      (split : rest = mid ++ .call thread ⟨.cancelIsSet .tick, set⟩ :: tail)
      (first : ∀ c ∈ callsOf thread mid, c.op.IsUntested)
      (unerased : ∀ v, (requests v).Greets → .call v ⟨.cancelClear, ()⟩ ∉ mid)

section Calls

variable {calls : List (Call (effects K))}

/-- What leads into a chunk was in one before, or enters it; and it keeps the lock. -/
theorem ChunkPhase.inside_before {phase : ChunkPhase} {c : Call (effects K)}
    (allowed : phase.Allows c.op) (inside : phase.after c ≠ .idle) :
    (c.op = .cancelIsSet .entry ∨ phase ≠ .idle) ∧ freesLock c = false := by
  have other (after : phase.after c =
      if phase = .stopping ∧ failedCall c = true then .idle else phase) : phase ≠ .idle := by
    intro idle
    rw [after, idle, if_neg (fun both => by cases both.1)] at inside
    exact inside rfl
  have ticks {mayStream : Bool} (phase_eq : phase = .ticking mayStream) : phase ≠ .idle := by
    rw [phase_eq]
    exact fun impossible => by cases impossible
  obtain ⟨op, answer⟩ := c
  cases op with
  | write call =>
      cases call with
      | streamCartesian pose wrench => exact ⟨Or.inr (ticks allowed), rfl⟩
      | streamJoint q => exact ⟨Or.inr (ticks allowed), rfl⟩
      | _ => exact ⟨Or.inr (other rfl), rfl⟩
  | cancelIsSet site =>
      cases site with
      | entry => exact ⟨Or.inl rfl, rfl⟩
      | tick =>
          obtain ⟨mayStream, phase_eq⟩ := allowed
          exact ⟨Or.inr (ticks phase_eq), rfl⟩
      | _ => exact ⟨Or.inr (other rfl), rfl⟩
  | chunkReturns success reason => exact absurd rfl inside
  | lockRelease robot => exact absurd rfl inside
  | _ => exact ⟨Or.inr (other rfl), rfl⟩

theorem inChunk_held {greets : Prop} {trusts : Call (effects K) → Prop}
    (watched : chunkWatch.Allowed .idle calls)
    (locked : ((robotLock greets).discipline trusts).Allowed false calls)
    (inside : chunkWatch.run .idle calls ≠ .idle) : (robotLock greets).heldAfter calls = true := by
  induction calls using List.reverseRecOn with
  | nil => exact absurd rfl inside
  | append_singleton calls c ih =>
      obtain ⟨watched, now, _⟩ := (chunkWatch.allowed_append .idle calls [c]).mp watched
      obtain ⟨locked, obeys, _⟩ := (Monitor.allowed_append _ false calls [c]).mp locked
      rw [Monitor.run_append] at inside
      obtain ⟨before, keeps⟩ := ChunkPhase.inside_before now inside
      have held : (robotLock greets).heldAfter calls = true := by
        rcases before with enters | inside
        · exact obeys.2 (by rw [enters]; trivial)
        · exact ih watched locked inside
      rw [Lock.heldAfter_snoc, Lock.after, held]
      cases takes : (robotLock greets).takes c with
      | true => rfl
      | false =>
          have keeps : (robotLock greets).frees c = false := keeps
          rw [keeps]
          rfl

end Calls

namespace ServerRun

variable {requests : Nat → Request K} {start : ServerState K} {events : List (ServerEvent K)}

theorem holder_iff (run : ServerRun requests start events) (thread : Nat) :
    (server.run start events).lockHolder = some (.handler thread) ↔
      (robotLock True).heldAfter (callsOf thread events) = true := by
  have free : ∀ t, start.lockHolder ≠ some (.handler t) := by
    intro t held
    rw [run.started.unlocked] at held
    cases held
  exact (robotLock_guards True).holder_iff free
    (fun t => handle_keepsLock (requests t) (fun _ => trivial) start.robot) run.run
    (fun _ _ _ => trivial) thread

theorem lock_allowed (run : ServerRun requests start events) {greets : Prop} {thread : Nat}
    (covers : (requests thread).Greets → greets) :
    ((robotLock greets).discipline fun _ => True).Allowed false (callsOf thread events) := by
  obtain ⟨q, ran⟩ := run.run.traced thread
  have kept : KeepsLock greets (fun _ => True) (handle (requests thread)) :=
    handle_keepsLock (requests thread) covers
  exact Program.wp_allowed (kept start.robot) ran
    ((robotLock greets).admitted_of_trusts _ false fun _ _ => trivial)

theorem chunk_allowed (run : ServerRun requests start events) {thread : Nat}
    (motion : (requests thread).RunsChunk) : chunkWatch.Allowed .idle (callsOf thread events) := by
  obtain ⟨q, ran⟩ := run.run.traced thread
  exact Program.wp_allowed (chunkWatch_follows.handle motion start.robot .idle
    fun impossible => by cases impossible) ran
    (chunkWatch.admitted_of_forall (fun _ _ => trivial) .idle _)

/-- What a motion handler last learnt of the flag decides what it does next. -/
theorem turns_allowed (run : ServerRun requests start events) {thread : Nat}
    (motion : (requests thread).RunsChunk) : flagTurns.Allowed .clear (callsOf thread events) := by
  obtain ⟨q, ran⟩ := run.run.traced thread
  exact Program.wp_allowed (flagTurns_follows.handle motion start.robot .clear
    fun impossible => by cases impossible) ran
    (flagTurns.admitted_of_forall (fun _ _ => trivial) .clear _)

theorem chunk_holder (run : ServerRun requests start events) {thread : Nat}
    (motion : (requests thread).RunsChunk) (inside : phaseOf events thread ≠ .idle) :
    (server.run start events).lockHolder = some (.handler thread) :=
  (run.holder_iff thread).mpr
    (inChunk_held (run.chunk_allowed motion) (run.lock_allowed fun _ => trivial) inside)

/-- But for the greeting of a fresh owner, only the holder of the lock clears the flag. -/
theorem clear_holder (run : ServerRun requests start events) {thread : Nat}
    {pre post : List (ServerEvent K)}
    (split : events = pre ++ .call thread ⟨.cancelClear, ()⟩ :: post)
    (greetsNobody : ¬ (requests thread).Greets) :
    (server.run start pre).lockHolder = some (.handler thread) := by
  subst split
  have allowed : ((robotLock False).discipline fun _ => True).Allowed false (callsOf thread _) :=
    run.lock_allowed greetsNobody
  rw [callsOf_append, callsOf_own] at allowed
  exact (run.initial.holder_iff thread).mpr (allowed.at_call.2 id)

end ServerRun

def cancelLatch : Latch (server (K := K)) ServerState.cancel where
  raises e := ∃ t, e = .call t ⟨.cancelSet, ()⟩
  lowers e := ∃ t, e = .call t ⟨.cancelClear, ()⟩
  raise := by
    rintro s e ⟨t, same⟩
    subst same
    rfl
  lower := by
    rintro s e ⟨t, same⟩
    subst same
    rfl
  keep := by
    intro s e unraised unlowered
    cases e with
    | env move => cases move <;> rfl
    | call t c =>
        obtain ⟨op, answer⟩ := c
        cases op with
        | cancelClear => exact absurd ⟨t, rfl⟩ unlowered
        | cancelSet => exact absurd ⟨t, rfl⟩ unraised
        | lockTryAcquire => cases answer <;> rfl
        | _ => rfl

section Stopped

variable {requests : Nat → Request K} {start : ServerState K}
  {before mid tail : List (ServerEvent K)} {m : Nat}

/-- Nobody clears a raised flag before the chunk's next test, which finds it set. -/
theorem test_finds_flag {found : Bool}
    (run : ServerRun requests start (before ++ (mid ++ .call m ⟨.cancelIsSet .tick, found⟩ :: tail)))
    (raised : (server.run start before).cancel = true) (motion : (requests m).RunsChunk)
    (first : ∀ c ∈ callsOf m mid, c.op.IsUntested)
    (unerased : ∀ v, (requests v).Greets → .call v ⟨.cancelClear, ()⟩ ∉ mid) : found = true := by
  have watched := run.chunk_allowed motion
  rw [callsOf_append, callsOf_append, callsOf_own, Monitor.allowed_append,
    Monitor.allowed_append] at watched
  obtain ⟨_, inside, ⟨mayStream, ticks⟩, _⟩ := watched
  obtain ⟨ticking, keeps⟩ := ticking_throughout inside (fun c member => (first c member).1) ticks
  have uncleared : ¬ cancelLatch.LoweredIn mid := by
    rintro ⟨e, clears, v, same⟩
    subst same
    by_cases greets : (requests v).Greets
    · exact unerased v greets clears
    · obtain ⟨xs, ys, split⟩ := List.append_of_mem clears
      subst split
      rw [List.append_assoc, List.cons_append, ← List.append_assoc] at run
      have clearer := run.clear_holder rfl greets
      have chunk : phaseOf (before ++ xs) m ≠ .idle := by
        obtain ⟨mayStream', phase⟩ := ticking (callsOf m xs) _ (callsOf_append m xs _)
        rw [phaseOf, callsOf_append, Monitor.run_append, phase]
        exact fun impossible => by cases impossible
      have holder := run.initial.chunk_holder motion chunk
      rw [clearer] at holder
      cases holder
      exact keeps _ (callsOf_member.mpr clears) rfl
  have valid := run.run.valid
  rw [server.valid_append, server.valid_append] at valid
  exact valid.2.2.1.trans ((cancelLatch.raised_iff _ mid).mpr (Or.inl ⟨raised, uncleared⟩))

theorem Heeded.obeys {rest : List (ServerEvent K)} (heeded : Heeded requests before rest m)
    (run : ServerRun requests start (before ++ rest))
    (raised : (server.run start before).cancel = true) (motion : (requests m).RunsChunk) :
    ∃ xs ys, callsOf m rest = xs ++ ys ∧ (∀ c ∈ xs, c.op.report = none) ∧
      (streamed xs).length ≤ 1 ∧ chunkWatch.run (phaseOf before m) xs = .stopping := by
  cases heeded with
  | already obeys =>
      exact ⟨[], callsOf m rest, rfl, fun c none => (by cases none), Nat.zero_le 1, obeys⟩
  | tests mid tail found split first unerased =>
      subst split
      have set := test_finds_flag run raised motion first unerased
      subst set
      have watched := run.chunk_allowed motion
      rw [callsOf_append, callsOf_append, callsOf_own, Monitor.allowed_append,
        Monitor.allowed_append] at watched
      obtain ⟨_, inside, _⟩ := watched
      have few := streamed_untested inside fun c member => (first c member).1
      refine ⟨callsOf m mid ++ [⟨.cancelIsSet .tick, true⟩], callsOf m tail, ?_, ?_, ?_, ?_⟩
      · rw [callsOf_append, callsOf_own, List.append_cons]
      · intro c member
        rcases List.mem_append.mp member with earlier | last
        · exact (first c earlier).2
        · rw [List.mem_singleton.mp last]
          rfl
      · have mute : streamed (callsOf m mid ++ [⟨.cancelIsSet .tick, true⟩]) =
            streamed (callsOf m mid) ++ [] :=
          List.filterMap_append
        rw [mute, List.append_nil]
        split at few
        · exact few
        · exact few.trans (Nat.zero_le 1)
      · rw [Monitor.run_append]
        rfl

end Stopped

/-- A stop ends the chunk it finds in flight: at most one more setpoint, and a report that
names the user. -/
theorem stop_ends_chunk {requests : Nat → Request K} {start : ServerState K}
    {events pre rest : List (ServerEvent K)} {u m : Nat} (run : ServerRun requests start events)
    (split : events = pre ++ .call u ⟨.cancelSet, ()⟩ :: rest) (motion : (requests m).RunsChunk)
    (heeded : Heeded requests (pre ++ [.call u ⟨.cancelSet, ()⟩]) rest m)
    (unfailed : ∀ c ∈ beforeReport (callsOf m rest), failedCall c = false) :
    (streamed (beforeReport (callsOf m rest))).length ≤ 1 ∧
      (∀ report, firstReport (callsOf m rest) = some report → report = (false, .user)) ∧
      ((∃ out, Trace (handlers requests start.robot m) (callsOf m events) (.done out)) →
        (firstReport (callsOf m rest)).isSome) := by
  rw [List.append_cons pre] at split
  subst split
  have raised : (server.run start (pre ++ [.call u ⟨.cancelSet, ()⟩])).cancel = true := by
    rw [server.run_append]
    rfl
  obtain ⟨xs, ys, calls, unreported, few, obeys⟩ := heeded.obeys run raised motion
  have watched := run.chunk_allowed motion
  rw [callsOf_append, calls, Monitor.allowed_append, Monitor.allowed_append] at watched
  have stopping := watched.2.2
  change chunkWatch.Allowed (chunkWatch.run (phaseOf _ m) xs) ys at stopping
  rw [obeys] at stopping
  have goes_on : beforeReport (xs ++ ys) = xs ++ beforeReport ys :=
    List.takeWhile_append_of_pos fun c member => by rw [unreported c member]; rfl
  have none_yet : firstReport xs = none := List.findSome?_eq_none_iff.mpr unreported
  have first : firstReport (xs ++ ys) = firstReport ys := by
    rw [firstReport, List.findSome?_append]
    change (firstReport xs).or (firstReport ys) = firstReport ys
    rw [none_yet, Option.none_or]
  rw [calls, goes_on] at unfailed
  obtain ⟨silent, user, unfinished⟩ := stopping_reports stopping fun c member =>
    unfailed c (List.mem_append_right xs member)
  rw [calls, goes_on, first]
  refine ⟨?_, user, ?_⟩
  · have both : streamed (xs ++ beforeReport ys) = streamed xs ++ streamed (beforeReport ys) :=
      List.filterMap_append
    rw [both, silent, List.append_nil]
    exact few
  · rintro ⟨out, ran⟩
    have settled := (Program.wp_sound
      (chunkWatch_follows.handle motion start.robot .idle
        fun impossible => by cases impossible) ran
      (chunkWatch.admitted_of_forall (fun _ _ => trivial) .idle _)).2
    rw [Option.isSome_iff_ne_none]
    intro unreported
    apply settled
    rw [callsOf_append, calls, Monitor.run_append, Monitor.run_append]
    change chunkWatch.run (chunkWatch.run (phaseOf _ m) xs) ys = .stopping
    rw [obeys]
    exact unfinished unreported

section Traces

def cancelledTick : List (Call (effects K)) :=
  [⟨.cancelIsSet .tick, true⟩, ⟨.cancelClear, ()⟩, ⟨.write .stop, .ok ()⟩]

theorem jointTick_cancelled (q : List K) (result : ExecutionResult K) (robot : Robot K) :
    Trace (jointTick q result robot) cancelledTick (.done (.ok (result.stop .user, false), robot)) :=
  .cons (.cons (.cons (.nil _)))

theorem jointTicks_halts {q : List K} {result result' : ExecutionResult K} {robot robot' : Robot K}
    {calls : List (Call (effects K))}
    (now : Trace (jointTick q result robot) calls (.done (.ok (result', false), robot')))
    (rest : List (Except Exc (List K))) :
    Trace (jointTicks (.ok q :: rest) result robot) calls (.done (.ok result', robot')) := by
  have taken : Trace ((attempt (.ok q) : RobotM K (List K)) robot) [] (.done (.ok q, robot)) :=
    .nil _
  have ended : Trace ((pure result' : RobotM K (ExecutionResult K)) robot') []
      (.done (.ok result', robot')) := .nil _
  have whole : Trace (jointTicks (.ok q :: rest) result robot) ([] ++ (calls ++ []))
      (.done (.ok result', robot')) :=
    Script.trace_then taken (Script.trace_then now ended)
  rw [List.nil_append, List.append_nil] at whole
  exact whole

def entersMotion (owner : String) (expiresAt : K) (robot : Robot K) : List (Call (effects K)) :=
  [⟨.leaseCheck owner, .ok ()⟩, ⟨.leaseHeartbeat owner, .ok expiresAt⟩,
    ⟨.setFacadeOwner owner, ()⟩, ⟨.lockAcquire, robot⟩, ⟨.loopSlot, none⟩,
    ⟨.holdEnter owner, .ok ()⟩]

theorem executeJointChunk_entered (start : Robot K) {owner : String} (named : owner ≠ "")
    {chunk : JointChunk K} {robot : Robot K} (expiresAt : K) {calls : List (Call (effects K))}
    (ran : ∃ q, Trace (executeJointChunk chunk false robot) calls q) :
    ∃ q, Trace (handle (.executeJointChunk owner (.ok chunk)) start)
      (entersMotion owner expiresAt robot ++ calls) q := by
  have checked : Trace (requireLease owner start)
      [⟨.leaseCheck owner, .ok ()⟩, ⟨.leaseHeartbeat owner, .ok expiresAt⟩,
        ⟨.setFacadeOwner owner, ()⟩] (.done (.ok (), start)) := .cons (.cons (.cons (.nil _)))
  have held : ∃ q, Trace (holdLease owner (executeJointChunk chunk false) robot)
      (⟨.holdEnter owner, .ok ()⟩ :: calls) q := by
    unfold holdLease
    rw [if_neg named]
    obtain ⟨q, inside⟩ := trace_ensured (perform (.holdExit owner)) ran
    exact ⟨q, .cons inside⟩
  have locked : ∃ q, Trace (motionLock owner (executeJointChunk chunk false) start)
      (⟨.lockAcquire, robot⟩ :: ⟨.loopSlot, none⟩ :: ⟨.holdEnter owner, .ok ()⟩ :: calls) q := by
    obtain ⟨q, inside⟩ := held
    refine ⟨_, .cons (trace_ensured releaseRobotLock ⟨q, ?_⟩).choose_spec⟩
    exact .cons inside
  obtain ⟨q, moves⟩ := trace_within
    (fun r => (pure (Reply.result r) : RobotM K (Reply K))) locked
  have whole := Script.trace_then (f := fun _ => (do
    let r ← motionLock owner (executeJointChunk chunk false)
    pure (Reply.result r) : RobotM K (Reply K))) checked moves
  exact ⟨q, whole⟩

end Traces

noncomputable def twoTicks : JointChunk ℝ where
  waypoints := [{ positions := uniform 0, duration := some (2 / 100), timed := Or.inr rfl }]
  nonempty := List.cons_ne_nil _ _

theorem twoTicks_setpoints :
    (twoTicks.fromRest freshServer.robot).setpoints = List.replicate 2 (.ok (uniform 0)) := by
  have setpoints : (twoTicks.fromRest freshServer.robot).setpoints = _ :=
    JointChunkInterpolator.setpoints_rest rfl rfl rfl
  have hz : (twoTicks.fromRest freshServer.robot).hz = 100 := by
    norm_num [JointChunk.fromRest, freshServer, Robot.init]
  have rounded : Scalar.round (2 / 100 * 100 : ℝ) = 2 := by
    change Scalar.roundEven (2 / 100 * 100) = 2
    norm_num [Scalar.roundEven]
  have two : requestedTicks (2 / 100 : ℝ) (twoTicks.fromRest freshServer.robot).hz = 2 := by
    rw [requestedTicks, hz, rounded]
    rfl
  have resolved : JointWaypoint.resolveDuration
      { positions := uniform 0, duration := some (2 / 100), timed := Or.inr rfl }
      (twoTicks.fromRest freshServer.robot).hz = 2 / 100 := rfl
  rw [setpoints, resolved, two]
  rfl

noncomputable def stopAndHandOver : Nat → Request ℝ
  | 0 => .acquireLease "A" false
  | 1 => .executeJointChunk "A" (.ok twoTicks)
  | 2 => .stop
  | 3 => .releaseLease "A"
  | 4 => .acquireLease "B" false
  | _ => .ping

noncomputable def chunkStarts : List (Call (effects ℝ)) :=
  entersMotion "A" 2 freshServer.robot ++
    [⟨.facadeOwner, some "A"⟩, ⟨.cancelIsSet .entry, false⟩, ⟨.readState, .ok zeroed⟩,
      ⟨.publishState zeroed, ()⟩, ⟨.perfCounter, (0 : ℝ)⟩, ⟨.cancelIsSet .tick, false⟩]

noncomputable def chunkInFlight : List (ServerEvent ℝ) :=
  acquires 0 "A" 0 ++ .env (.receive 1) :: chunkStarts.map (.call 1) ++ [.env (.receive 2)]

noncomputable def chunkObeys : List (Call (effects ℝ)) :=
  (clearTick zeroed (uniform 0)).tail ++ cancelledTick ++ [⟨.readState, .ok zeroed⟩,
    ⟨.publishState zeroed, ()⟩, ⟨.chunkReturns false .user, ()⟩]

noncomputable def chunkGoesOn : List (Call (effects ℝ)) :=
  (clearTick zeroed (uniform 0)).tail ++ clearTick zeroed (uniform 0) ++
    [⟨.readState, .ok zeroed⟩, ⟨.publishState zeroed, ()⟩, ⟨.chunkReturns true .none, ()⟩]

noncomputable def stopObeyed : List (ServerEvent ℝ) :=
  chunkInFlight ++ .call 2 ⟨.cancelSet, ()⟩ :: chunkObeys.map (.call 1)

theorem stopObeyed_run : ServerRun stopAndHandOver freshServer stopObeyed where
  started := ⟨rfl, rfl, rfl, rfl, rfl⟩
  run := by
    constructor
    · norm_num +decide [stopObeyed, chunkInFlight, chunkStarts, chunkObeys, acquires, entersMotion,
        clearTick, cancelledTick, Machine.Valid, server, ServerState.Enabled, ServerState.Answers,
        ServerState.next, ServerState.afterCall, ServerState.afterMove, freshServer, Lease.acquire,
        Lease.owner, Lease.check, Lease.heartbeat, Lease.holdEnter, Lease.expireIfStale,
        Lease.grant, Lease.verify, Except.map]
    · have rest : freshServer.robot.anchored.AtRest := ⟨rfl, rfl, Or.inl rfl⟩
      obtain ⟨clipped, robot, _, _, clear⟩ :=
        jointTick_rest rest (twoTicks.report freshServer.robot)
      have ticks := jointTicks_clear clear (jointTicks_halts (jointTick_cancelled (uniform 0)
        { twoTicks.report freshServer.robot with clipped := clipped } robot) [])
      change Trace (jointTicks (List.replicate 2 (.ok (uniform 0))) _ _) _ _ at ticks
      rw [← twoTicks_setpoints] at ticks
      have executed := executeJointChunk_trace (Or.inl rfl) "A" ticks
      have named : "A" ≠ "" := by decide
      have moves := executeJointChunk_entered freshServer.robot named 2 ⟨_, executed⟩
      rintro (_ | _ | _ | _)
      · exact ⟨_, .cons (.cons (.cons (.nil _)))⟩
      · exact moves
      · exact ⟨_, .cons (.nil _)⟩
      · exact ⟨_, .nil _⟩
  received := by
    intro pre thread c post split
    have orderly : Orderly [] stopObeyed := by
      norm_num [Orderly, stopObeyed, chunkInFlight, chunkStarts, chunkObeys, acquires,
        entersMotion, clearTick, cancelledTick]
    exact (orderly.received split).resolve_left List.not_mem_nil
  replied := by
    intro pre thread post split
    have member : .env (.reply thread) ∈ stopObeyed :=
      split ▸ List.mem_append_right pre List.mem_cons_self
    simp [stopObeyed, chunkInFlight, chunkStarts, chunkObeys, acquires, entersMotion,
      clearTick, cancelledTick] at member

theorem stop_ends_chunk_next_tick :
    (streamed (beforeReport chunkObeys)).length ≤ 1 ∧
      ∀ report, firstReport chunkObeys = some report → report = (false, .user) := by
  have heeded : Heeded stopAndHandOver (chunkInFlight ++ [.call 2 ⟨.cancelSet, ()⟩])
      (chunkObeys.map (.call 1)) 1 := by
    refine .tests ((clearTick zeroed (uniform 0)).tail.map (.call 1)) _ true rfl ?_ ?_
    · intro c member
      have member : c ∈ (clearTick zeroed (uniform 0)).tail := member
      simp only [clearTick, List.tail_cons, List.mem_cons, List.not_mem_nil, or_false] at member
      rcases member with same | same | same | same <;> rw [same] <;> exact ⟨id, rfl⟩
    · intro v _ member
      simp [clearTick] at member
  have unfailed : ∀ c ∈ beforeReport (callsOf 1 (chunkObeys.map (.call 1 : _ → ServerEvent ℝ))),
      failedCall c = false := by
    intro c member
    have member : c ∈ (clearTick zeroed (uniform 0)).tail ++ cancelledTick ++
      [⟨.readState, .ok zeroed⟩, ⟨.publishState zeroed, ()⟩] := member
    simp only [clearTick, cancelledTick, List.tail_cons, List.cons_append, List.nil_append,
      List.mem_cons, List.not_mem_nil, or_false] at member
    rcases member with h | h | h | h | h | h | h | h | h <;> rw [h] <;> rfl
  have motion : (stopAndHandOver 1).RunsChunk := trivial
  obtain ⟨few, user, _⟩ := stop_ends_chunk stopObeyed_run rfl motion heeded unfailed
  exact ⟨few, user⟩

noncomputable def stopErased : List (ServerEvent ℝ) :=
  chunkInFlight ++ .call 2 ⟨.cancelSet, ()⟩ :: ([.call 2 ⟨.lockTryAcquire, none⟩,
    .call 2 ⟨.cancelSet, ()⟩, .env (.receive 3), .call 3 ⟨.leaseRelease "A", .ok ()⟩] ++
      acquires 4 "B" 0 ++ chunkGoesOn.map (.call 1))

theorem stopErased_run : ServerRun stopAndHandOver freshServer stopErased where
  started := ⟨rfl, rfl, rfl, rfl, rfl⟩
  run := by
    constructor
    · norm_num +decide [stopErased, chunkInFlight, chunkStarts, chunkGoesOn, acquires,
        entersMotion, clearTick, Machine.Valid, server, ServerState.Enabled, ServerState.Answers,
        ServerState.next, ServerState.afterCall, ServerState.afterMove, freshServer, Lease.acquire,
        Lease.owner, Lease.check, Lease.heartbeat, Lease.holdEnter, Lease.release,
        Lease.expireIfStale, Lease.grant, Lease.verify, Except.map]
    · have rest : freshServer.robot.anchored.AtRest := ⟨rfl, rfl, Or.inl rfl⟩
      obtain ⟨clipped, robot, _, _, ticks⟩ :=
        jointTicks_rest 2 rest (twoTicks.report freshServer.robot)
      rw [← twoTicks_setpoints] at ticks
      have executed := executeJointChunk_trace (Or.inl rfl) "A" ticks
      have named : "A" ≠ "" := by decide
      have moves := executeJointChunk_entered freshServer.robot named 2 ⟨_, executed⟩
      rintro (_ | _ | _ | _ | _ | _)
      · exact ⟨_, .cons (.cons (.cons (.nil _)))⟩
      · exact moves
      · exact ⟨_, .cons (.cons (.cons (.nil _)))⟩
      · exact ⟨_, .cons (.nil _)⟩
      · exact ⟨_, .cons (.cons (.cons (.nil _)))⟩
      · exact ⟨_, .nil _⟩
  received := by
    intro pre thread c post split
    have orderly : Orderly [] stopErased := by
      norm_num [Orderly, stopErased, chunkInFlight, chunkStarts, chunkGoesOn, acquires,
        entersMotion, clearTick]
    exact (orderly.received split).resolve_left List.not_mem_nil
  replied := by
    intro pre thread post split
    have member : .env (.reply thread) ∈ stopErased :=
      split ▸ List.mem_append_right pre List.mem_cons_self
    simp [stopErased, chunkInFlight, chunkStarts, chunkGoesOn, acquires, entersMotion,
      clearTick] at member

/-- The stop comes between two ticks; the chunk streams two more setpoints and succeeds. -/
theorem stop_erased_by_greeting :
    ∃ rest, ServerRun stopAndHandOver freshServer
        (chunkInFlight ++ .call 2 ⟨.cancelSet, ()⟩ :: rest) ∧
      stopAndHandOver 2 = .stop ∧ phaseOf chunkInFlight 1 = .ticking true ∧
      streamed (beforeReport (callsOf 1 rest)) = [.joint (uniform 0), .joint (uniform 0)] ∧
      firstReport (callsOf 1 rest) = some (true, .none) :=
  ⟨_, stopErased_run, rfl, rfl, rfl, rfl⟩

end FlexivControl
