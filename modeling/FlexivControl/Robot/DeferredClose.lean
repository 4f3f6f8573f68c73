/-
What a gated chunk does with its gripper, over whole runs of the executor.

After an abort only a grasp that follows an issued close passes; deferred closes are
resolved one at a time and in the order of the waypoints.
-/

import FlexivControl.Robot.GatedRuns

namespace FlexivControl

section Runs

variable {K : Type} [Scalar K]

/-- Where a send stands in the history of the abort record. -/
structure GripStep.SendsBetween (step : GripStep K) (run : ChunkRun K) : Prop where
  agrees : run.Agrees → ∀ send ∈ step.sends, send.run.Agrees
  since : run.closeAborted = true → ∀ send ∈ step.sends, send.run.closeAborted = true
  until_step : ∀ send ∈ step.sends, send.run.closeAborted = true → step.run.closeAborted = true
  single : step.sends.length ≤ 1

theorem sendsBetween_silent (run run' : ChunkRun K) :
    (GripStep.mk run' []).SendsBetween run where
  agrees _ send member := by cases member
  since _ send member := by cases member
  until_step send member := by cases member
  single := Nat.zero_le 1

theorem judgeClose_sendsBetween (chunk : CartesianChunk K) (run : ChunkRun K)
    (g : GripperCommand K) (state : RobotState K) :
    (judgeClose chunk run g state).SendsBetween run := by
  unfold judgeClose
  dsimp only
  split
  · split
    · exact sendsBetween_silent _ _
    · exact sendsBetween_silent _ _
  · refine ⟨?_, ?_, ?_, le_rfl⟩
    · intro agrees send member
      rw [List.mem_singleton.mp member]
      exact agrees
    · intro aborted send member
      rw [List.mem_singleton.mp member]
      exact aborted
    · intro send member aborted
      rw [List.mem_singleton.mp member] at aborted
      exact aborted

theorem fireStep_sendsBetween (chunk : CartesianChunk K) (run : ChunkRun K)
    (state : RobotState K) : (fireStep chunk run state).SendsBetween run := by
  unfold fireStep
  split
  · exact sendsBetween_silent _ _
  · rename_i g fireAt pending
    split
    · have judged := judgeClose_sendsBetween chunk { run with pendingClose := none } g state
      exact ⟨judged.agrees, judged.since, judged.until_step, judged.single⟩
    · exact sendsBetween_silent _ _

theorem gripStep_sendsBetween (chunk : CartesianChunk K) (hz : K) (sp : CartesianSetpoint K)
    (run : ChunkRun K) (state : RobotState K) :
    (gripStep chunk hz sp run state).SendsBetween run := by
  unfold gripStep
  split
  · exact sendsBetween_silent _ _
  · rename_i grip bears
    unfold handleStep
    split
    · split
      · exact sendsBetween_silent _ _
      · unfold settleStep
        split
        · exact sendsBetween_silent _ _
        · rename_i g fireAt pending
          have judged := judgeClose_sendsBetween chunk { run with pendingClose := none } g state
          exact ⟨judged.agrees, judged.since, judged.until_step, judged.single⟩
    · refine ⟨?_, ?_, ?_, le_rfl⟩
      · intro agrees send member
        rw [List.mem_singleton.mp member]
        exact agrees
      · intro aborted send member
        rw [List.mem_singleton.mp member]
        exact aborted
      · intro send member aborted
        rw [List.mem_singleton.mp member] at aborted
        exact aborted

theorem finishStep_sendsBetween (chunk : CartesianChunk K) (run : ChunkRun K)
    (final : RobotState K) : (finishStep chunk run final).SendsBetween run := by
  unfold finishStep
  split
  · exact sendsBetween_silent _ _
  · rename_i g fireAt pending
    dsimp only
    split
    · have judged := judgeClose_sendsBetween chunk { run with pendingClose := none } g final
      exact ⟨judged.agrees, judged.since, judged.until_step, judged.single⟩
    · split
      · exact sendsBetween_silent _ _
      · exact sendsBetween_silent _ _

/-- The abort record among sends in a row: it agrees with the flag, and stays. -/
structure Recording (run : ChunkRun K) (sends : List (GripSend K)) (run' : ChunkRun K) : Prop where
  agrees : run.Agrees → ∀ send ∈ sends, send.run.Agrees
  since : run.closeAborted = true → ∀ send ∈ sends, send.run.closeAborted = true
  stays : sends.Pairwise fun earlier later =>
    earlier.run.closeAborted = true → later.run.closeAborted = true
  until_end : ∀ send ∈ sends, send.run.closeAborted = true → run'.closeAborted = true
  agrees_end : run.Agrees → run'.Agrees
  aborted_end : run.closeAborted = true → run'.closeAborted = true

theorem GripStep.SendsBetween.recording {step : GripStep K} {run : ChunkRun K}
    (between : step.SendsBetween run) (kept : step.KeepsRecord run) :
    Recording run step.sends step.run where
  agrees := between.agrees
  since := between.since
  stays := by
    have single := between.single
    cases sends : step.sends with
    | nil => exact .nil
    | cons send rest =>
        rw [sends, List.length_cons] at single
        rw [List.length_eq_zero_iff.mp (Nat.le_zero.mp (Nat.le_of_succ_le_succ single))]
        exact List.pairwise_singleton _ _
  until_end := between.until_step
  agrees_end := kept.agrees
  aborted_end := kept.sticks

theorem Recording.append {run run' run'' : ChunkRun K} {sends sends' : List (GripSend K)}
    (first : Recording run sends run') (second : Recording run' sends' run'') :
    Recording run (sends ++ sends') run'' where
  agrees agrees send member := by
    rcases List.mem_append.mp member with now | later
    · exact first.agrees agrees send now
    · exact second.agrees (first.agrees_end agrees) send later
  since aborted send member := by
    rcases List.mem_append.mp member with now | later
    · exact first.since aborted send now
    · exact second.since (first.aborted_end aborted) send later
  stays := by
    rw [List.pairwise_append]
    refine ⟨first.stays, second.stays, ?_⟩
    intro earlier inFirst later inSecond aborted
    exact second.since (first.until_end earlier inFirst aborted) later inSecond
  until_end send member aborted := by
    rcases List.mem_append.mp member with now | later
    · exact second.aborted_end (first.until_end send now aborted)
    · exact second.until_end send later aborted
  agrees_end := second.agrees_end ∘ first.agrees_end
  aborted_end := second.aborted_end ∘ first.aborted_end

theorem sendsIn_recording (chunk : CartesianChunk K) (hz dt : K) (run : ChunkRun K)
    (t : StreamedTick K) :
    Recording run (sendsIn chunk hz run t) (run.afterTick chunk hz dt t) := by
  have fired := (fireStep_sendsBetween chunk (run.entering t) t.state).recording
    (fireStep_keepsRecord chunk _ _)
  have handled := (gripStep_sendsBetween chunk hz t.sp (firedIn chunk run t).run t.state).recording
    (gripStep_keepsRecord chunk hz t.sp _ t.state)
  have both := fired.append handled
  obtain ⟨entered, same⟩ := @agrees_entering K _ run t
  exact ⟨both.agrees ∘ entered, fun aborted => both.since (same.trans aborted), both.stays,
    both.until_end, both.agrees_end ∘ entered, fun aborted => both.aborted_end (same.trans aborted)⟩

theorem playSends_recording (chunk : CartesianChunk K) (hz dt : K) (ticks : List (StreamedTick K)) :
    ∀ run, Recording run (playSends chunk hz dt run ticks) (playRun chunk hz dt run ticks) := by
  induction ticks with
  | nil =>
      intro run
      refine ⟨?_, ?_, .nil, ?_, id, id⟩
      · intro _ send member
        cases member
      · intro _ send member
        cases member
      · intro send member
        cases member
  | cons t ticks ih =>
      intro run
      exact (sendsIn_recording chunk hz dt run t).append (ih _)

/-! ### Plays of a call -/

section Plays

variable {robot : Robot K} {chunk : CartesianChunk K} {events : List (ChunkEvent K)}
  {play : ChunkPlay K}

def ChunkPlay.played (play : ChunkPlay K) (robot : Robot K) : ChunkRun K :=
  playRun play.executed robot.controlHz robot.dt play.first play.ticks

theorem LoopEnds.keeps {setpoints : List (CartesianSetpoint K)} {ticks : List (StreamedTick K)}
    {played ended : ChunkRun K} (ends : LoopEnds setpoints ticks played ended) :
    (played.Agrees → ended.Agrees) ∧ ended.closeAborted = played.closeAborted ∧
      ended.pendingClose = played.pendingClose ∧ ended.closeIssued = played.closeIssued := by
  rcases ends with ⟨_, same⟩ | ⟨sp, rest, reason, _, same⟩
  · rw [same]
    exact ⟨id, rfl, rfl, rfl⟩
  · rw [same]
    exact ⟨id, rfl, rfl, rfl⟩

theorem finishStep_silent {run : ChunkRun K} (idle : run.pendingClose = none)
    (final : RobotState K) : finishStep chunk run final = { run := run } := by
  unfold finishStep
  rw [idle]

theorem ChunkRun.Fresh.agrees {run : ChunkRun K} (fresh : run.Fresh) : run.Agrees := by
  constructor
  · intro aborted
    rw [fresh.unaborted] at aborted
    cases aborted
  · intro recorded
    exact absurd recorded fresh.clean.unrecorded

/-- All sends of a play carry the abort record as it stood when they were judged. -/
theorem ChunkPlay.Of.recording (of : play.Of robot chunk events) :
    (∀ send ∈ play.sends robot, send.run.Agrees) ∧
      (play.sends robot).Pairwise fun earlier later =>
        earlier.run.closeAborted = true → later.run.closeAborted = true := by
  have agrees := of.fresh.agrees
  have ticks := playSends_recording play.executed robot.controlHz robot.dt play.ticks play.first
  unfold ChunkPlay.sends ChunkPlay.finish
  rcases of.ends with ends | idle
  · obtain ⟨agreesEnd, same, _, _⟩ := ends.keeps
    have finish := (finishStep_sendsBetween play.executed play.ended play.final).recording
      (finishStep_keepsRecord play.executed play.ended play.final)
    constructor
    · intro send member
      rcases List.mem_append.mp member with now | later
      · exact ticks.agrees agrees send now
      · exact finish.agrees (agreesEnd (ticks.agrees_end agrees)) send later
    · rw [List.pairwise_append]
      refine ⟨ticks.stays, finish.stays, ?_⟩
      intro earlier inTicks later inFinish aborted
      exact finish.since (same.trans (ticks.until_end earlier inTicks aborted)) later inFinish
  · rw [finishStep_silent idle, List.append_nil]
    exact ⟨ticks.agrees agrees, ticks.stays⟩

theorem ChunkPlay.Of.gate (of : play.Of robot chunk events) :
    play.executed.gripTrackingGateM = chunk.gripTrackingGateM :=
  (forExecution_resolves of.resolved).2.1

theorem ChunkPlay.Of.heed (of : play.Of robot chunk events)
    (gate : chunk.gripTrackingGateM.isSome = true) : ∀ send ∈ play.sends robot, send.Heeds := by
  have gate' : play.executed.gripTrackingGateM.isSome = true := of.gate.symm ▸ gate
  intro send member
  rcases List.mem_append.mp member with now | later
  · exact playSends_heed gate' _ _ play.ticks play.first send now
  · exact finishStep_heeds play.executed play.ended play.final send later

/-- What the gate sends from the tick after the first `n` on. -/
def ChunkPlay.sendsFrom (play : ChunkPlay K) (robot : Robot K) (n : Nat) : List (GripSend K) :=
  playSends play.executed robot.controlHz robot.dt (play.runAt robot n) (play.ticks.drop n) ++
    play.finish.sends

/-- The command closes in the state measured on the tick that hands it out. -/
def ChunkPlay.Closes (play : ChunkPlay K) (cmd : GripperCommand K) : Prop :=
  ∃ t ∈ play.ticks, t.sp.gripper = some cmd ∧ isClosing cmd t.state = true

theorem ChunkPlay.runAt_add (play : ChunkPlay K) (robot : Robot K) (n k : Nat) :
    play.runAt robot (n + k) = playRun play.executed robot.controlHz robot.dt
      (play.runAt robot n) ((play.ticks.drop n).take k) := by
  unfold runAt playRun
  rw [List.take_add, List.foldl_append]

theorem ChunkPlay.runAt_played (play : ChunkPlay K) (robot : Robot K) (n : Nat) :
    playRun play.executed robot.controlHz robot.dt (play.runAt robot n) (play.ticks.drop n) =
      play.played robot := by
  unfold runAt played playRun
  rw [← List.foldl_append, List.take_append_drop]

theorem ChunkPlay.Of.agrees (of : play.Of robot chunk events) (n : Nat) :
    (play.runAt robot n).Agrees :=
  playRun_agrees _ of.fresh.agrees

/-- Once an abort is on record it is so at every later tick, and whatever is sent then is
sent with it on record. -/
theorem ChunkPlay.Of.stays (of : play.Of robot chunk events) {n : Nat}
    (recorded : (play.runAt robot n).Recorded) :
    (∀ m, n ≤ m → (play.runAt robot m).Recorded) ∧
      ∀ send ∈ play.sendsFrom robot n, send.run.Recorded := by
  have aborted := (of.agrees n).mpr recorded
  have later := playSends_recording play.executed robot.controlHz robot.dt (play.ticks.drop n)
    (play.runAt robot n)
  constructor
  · intro m after
    obtain ⟨k, same⟩ := Nat.exists_eq_add_of_le after
    rw [same]
    apply (of.agrees (n + k)).mp
    rw [play.runAt_add robot n k]
    exact playRun_sticks _ aborted
  · intro send member
    rcases List.mem_append.mp member with ticking | finishing
    · exact (later.agrees (of.agrees n) send ticking).mp (later.since aborted send ticking)
    · have between := finishStep_sendsBetween play.executed play.ended play.final
      rcases of.ends with ends | idle
      · obtain ⟨agreesEnd, same, _⟩ := ends.keeps
        have played := later.aborted_end aborted
        rw [play.runAt_played robot n] at played
        have agrees := agreesEnd (playRun_agrees play.ticks of.fresh.agrees)
        exact (between.agrees agrees send finishing).mp
          (between.since (same.trans played) send finishing)
      · unfold ChunkPlay.finish at finishing
        rw [finishStep_silent idle] at finishing
        exact absurd finishing List.not_mem_nil

/-- An abort that has been on record at some tick, or when something was sent, is in the
report. -/
theorem ChunkPlay.Of.reported (of : play.Of robot chunk events) {result : ExecutionResult K}
    (returns : play.Returns robot events result)
    (recorded : (∃ n, (play.runAt robot n).Recorded) ∨
      ∃ send ∈ play.sends robot, send.run.Recorded) :
    "close_aborted" ∈ result.log.map Prod.fst := by
  obtain ⟨agreesEnd, same, _⟩ := returns.ends.keeps
  have agrees := agreesEnd (playRun_agrees play.ticks of.fresh.agrees)
  have kept := finishStep_keepsRecord play.executed play.ended play.final
  have between := finishStep_sendsBetween play.executed play.ended play.final
  have ticks := playSends_recording play.executed robot.controlHz robot.dt play.ticks play.first
  apply returns.records.mpr
  apply (kept.agrees agrees).mp
  rcases recorded with ⟨n, recorded⟩ | ⟨send, member, recorded⟩
  · have played := (playSends_recording play.executed robot.controlHz robot.dt
      (play.ticks.drop n) (play.runAt robot n)).aborted_end ((of.agrees n).mpr recorded)
    rw [play.runAt_played robot n] at played
    exact kept.sticks (same.trans played)
  · have aborted := (of.recording.1 send member).mpr recorded
    rcases List.mem_append.mp member with ticking | finishing
    · exact kept.sticks (same.trans (ticks.until_end send ticking aborted))
    · exact between.until_step send finishing aborted

theorem ChunkPlay.Of.issued (of : play.Of robot chunk events)
    {before after : List (GripSend K)} {send : GripSend K}
    (split : play.sends robot = before ++ send :: after) (found : send.run.closeIssued = true) :
    ∃ earlier ∈ before, play.Closes earlier.cmd := by
  have unissued : play.first.IssuedBy play.Closes [] := by
    constructor
    · intro issued
      rw [of.fresh.unissued] at issued
      cases issued
    · intro g fireAt pending
      rw [of.fresh.idle] at pending
      cases pending
  obtain ⟨ticking, played⟩ := playSends_issues play.executed robot.controlHz robot.dt play.ticks
    unissued (fun t member grip bears closing => ⟨t, member, bears, closing⟩)
  have ordered : IssuedBefore play.Closes [] (play.sends robot) := by
    apply ticking.append
    unfold ChunkPlay.finish
    rcases of.ends with ends | idle
    · obtain ⟨_, _, pending, issued⟩ := ends.keeps
      have ended : play.ended.IssuedBy play.Closes ([] ++ playSends play.executed robot.controlHz
          robot.dt play.first play.ticks) := by
        constructor
        · rw [issued]
          exact played.issued
        · rw [pending]
          exact played.pending
      exact (finishStep_issues play.executed play.final ended).ordered
    · rw [finishStep_silent idle]
      trivial
  rw [split] at ordered
  exact ordered.at_send found before

/-- A recorded abort stays recorded, at every later tick, at whatever is sent and in the
report, and after it a closing command reaches the backend only as a grasp that follows a
close, whatever is answered and wherever the run stands. -/
theorem skipped_close_stays_skipped (robot : Robot K) (chunk : CartesianChunk K)
    (gate : chunk.gripTrackingGateM.isSome = true) (raiseOnStop record : Bool)
    (calls : List (Call (effects K)))
    (q : Program (effects K) (Except Exc (ExecutionResult K) × Robot K))
    (ran : Trace (executeCartesianChunk chunk raiseOnStop record robot) calls q) :
    chunkEvents calls = [] ∨ ∃ play : ChunkPlay K, play.Of robot chunk (chunkEvents calls) ∧
      (∀ n, (play.runAt robot n).Recorded →
        (∀ m, n ≤ m → (play.runAt robot m).Recorded) ∧
          ∀ send ∈ play.sendsFrom robot n, send.run.Recorded) ∧
      (play.sends robot).Pairwise (fun earlier later =>
        earlier.run.Recorded → later.run.Recorded) ∧
      (∀ result robot', q = .done (.ok result, robot') →
        play.Returns robot (chunkEvents calls) result ∧
          ((∃ n, (play.runAt robot n).Recorded) ∨ (∃ send ∈ play.sends robot, send.run.Recorded) →
            "close_aborted" ∈ result.log.map Prod.fst)) ∧
      ∀ before send after, play.sends robot = before ++ send :: after → send.run.Recorded →
        isClosing send.cmd send.state = true →
          send.cmd.grasp = true ∧ ∃ earlier ∈ before, play.Closes earlier.cmd := by
  rcases executeCartesianChunk_plays ran with none | ⟨play, of, returns⟩
  · exact Or.inl none
  · obtain ⟨agrees, stays⟩ := of.recording
    refine Or.inr ⟨play, of, fun n recorded => of.stays recorded, ?_, ?_, ?_⟩
    · refine List.Pairwise.imp_of_mem ?_ stays
      intro earlier later inEarlier inLater kept recorded
      exact (agrees later inLater).mp (kept ((agrees earlier inEarlier).mpr recorded))
    · intro result robot' ended
      exact ⟨returns result robot' ended, of.reported (returns result robot' ended)⟩
    · intro before send after split recorded closing
      have member : send ∈ play.sends robot := by
        rw [split]
        exact List.mem_append_right _ List.mem_cons_self
      obtain ⟨grasps, issued⟩ := of.heed gate send member ((agrees send member).mpr recorded)
        closing
      exact ⟨grasps, of.issued split issued⟩

theorem ChunkPlay.Of.planned (of : play.Of robot chunk events) :
    ∃ rest, play.setpoints robot = play.ticks.map (·.sp) ++ rest ∧
      DueInTime play.first (play.ticks.map (·.sp) ++ rest) ∧
      Spaced (play.ticks.map (·.sp) ++ rest) := by
  obtain ⟨rest, whole⟩ := of.follows
  refine ⟨rest, whole.symm, ?_, ?_⟩
  · intro g fireAt pending
    rw [of.fresh.idle] at pending
    cases pending
  · rw [whole]
    exact (CartesianChunkInterpolator.setpointsFrom_bear _ _ _ _ _).1

def ChunkEvent.command : ChunkEvent K → Option (GripperCommand K)
  | .streamed _ _ => none
  | .moved cmd => some cmd

/-- The gripper commands among the events. -/
def commandsOf (events : List (ChunkEvent K)) : List (GripperCommand K) :=
  events.filterMap ChunkEvent.command

theorem commandsOf_movedBy (sends : List (GripSend K)) :
    commandsOf (movedBy sends) = commands sends := by
  induction sends with
  | nil => rfl
  | cons send rest ih => exact congrArg (send.cmd :: ·) ih

theorem commandsOf_playEvents (chunk : CartesianChunk K) (hz dt : K)
    (ticks : List (StreamedTick K)) :
    ∀ run, commandsOf (playEvents chunk hz dt run ticks) =
      commands (playSends chunk hz dt run ticks) := by
  induction ticks with
  | nil => exact fun _ => rfl
  | cons t ticks ih =>
      intro run
      have rest := ih (run.afterTick chunk hz dt t)
      have now := commandsOf_movedBy (sendsIn chunk hz run t)
      unfold commandsOf at rest now ⊢
      unfold playEvents tickEvents playSends commands
      rw [List.filterMap_append, rest, List.map_append]
      exact congrArg (· ++ _) now

theorem ChunkPlay.commandsOf_events (play : ChunkPlay K) (robot : Robot K) :
    commandsOf (play.events robot) = commands (play.sends robot) := by
  have ticks := commandsOf_playEvents play.executed robot.controlHz robot.dt play.ticks play.first
  have last := commandsOf_movedBy play.finish.sends
  unfold commandsOf at ticks last ⊢
  unfold ChunkPlay.events ChunkPlay.sends commands
  rw [List.filterMap_append, ticks, last, List.map_append]
  rfl

theorem ChunkPlay.Of.ordered (of : play.Of robot chunk events) :
    (commands (play.sends robot)).Sublist
      ((chunk.waypoints.take chunk.horizonExec).filterMap (·.gripper)) := by
  obtain ⟨rest, whole, inTime, spaced⟩ := of.planned
  have ordered := (playSends_order play.executed robot.controlHz robot.dt rest play.ticks inTime
    spaced).1
  have fresh : play.first.pendingCmd = [] := by
    unfold ChunkRun.pendingCmd
    rw [of.fresh.idle]
    rfl
  have streamed : (play.ticks.filterMap (·.sp.gripper)).Sublist
      ((chunk.waypoints.take chunk.horizonExec).filterMap (·.gripper)) := by
    rw [← forExecution_grippers of.resolved,
      ← (CartesianChunkInterpolator.setpointsFrom_bear (executorInterpolator play.executed
        play.start.tcpPose robot.profile robot.controlHz) play.executed.waypoints
        play.start.tcpPose.pos play.start.tcpPose.quat 0).2]
    change List.Sublist _ ((play.setpoints robot).filterMap (·.gripper))
    rw [whole, List.filterMap_append, List.filterMap_map]
    exact List.sublist_append_left _ _
  rw [fresh, List.nil_append] at ordered
  have finishes : (commands play.finish.sends).Sublist (play.played robot).pendingCmd := by
    rcases of.ends with ends | idle
    · have same : (play.played robot).pendingCmd = play.ended.pendingCmd := by
        unfold ChunkRun.pendingCmd
        rw [ends.keeps.2.2.1]
        rfl
      rw [same]
      exact (finishStep_resolves play.executed play.ended play.final).2.1
    · unfold ChunkPlay.finish
      rw [finishStep_silent idle]
      exact List.nil_sublist _
  have split : commands (play.sends robot) =
      commands (playSends play.executed robot.controlHz robot.dt play.first play.ticks) ++
        commands play.finish.sends := List.map_append
  rw [split]
  exact (List.Sublist.append_left finishes _).trans (ordered.trans streamed)

theorem gripStep_open {hz : K} {sp : CartesianSetpoint K} {grip : GripperCommand K}
    (bears : sp.gripper = some grip) {state : RobotState K} (opens : isClosing grip state = false)
    (run : ChunkRun K) : commands (gripStep chunk hz sp run state).sends = [grip] := by
  have free : gated chunk run grip state = false := by
    unfold gated
    rw [opens, Bool.false_and]
  rw [gripStep_passes chunk hz bears free]
  rfl

/-- A tick that bears a command finds no close pending once the due one is judged: that one
is sent or on record as aborted. A command that does not close is sent on its tick. -/
theorem ChunkPlay.Of.bearing (of : play.Of robot chunk events)
    {earlier later : List (StreamedTick K)} {t : StreamedTick K}
    (at_tick : play.ticks = earlier ++ t :: later) {grip : GripperCommand K}
    (bears : t.sp.gripper = some grip) :
    let run := playRun play.executed robot.controlHz robot.dt play.first earlier
    (firedIn play.executed run t).run.pendingClose = none ∧
      (∀ g fireAt, run.pendingClose = some (g, fireAt) →
        commands (firedIn play.executed run t).sends = [g] ∨
          (firedIn play.executed run t).run.Recorded) ∧
      (isClosing grip t.state = false →
        commands (handledIn play.executed robot.controlHz run t).sends = [grip]) := by
  intro run
  obtain ⟨rest, _, inTime, spaced⟩ := of.planned
  rw [at_tick, List.map_append, List.map_cons, List.append_assoc, List.cons_append]
    at inTime spaced
  have reached := (playSends_order play.executed robot.controlHz robot.dt _ earlier inTime
    spaced).2
  have bearing : t.sp.gripper ≠ none := by
    rw [bears]
    exact Option.some_ne_none grip
  obtain ⟨idle, resolved⟩ := reached.resolved play.executed bearing
  have agrees : run.Agrees := playRun_agrees earlier of.fresh.agrees
  refine ⟨idle, ?_, fun opens => gripStep_open bears opens _⟩
  intro g fireAt pending
  rcases resolved g fireAt pending with sent | aborted
  · exact Or.inl sent
  · exact Or.inr ((fired_agrees agrees t).mp aborted)

/-- The gripper commands of a finished call follow the plan: a subsequence of the waypoints'
commands, every deferred close resolved before the next command is looked at and none left
pending, every command that does not close sent on its segment's first tick. -/
theorem deferred_closes_keep_order (robot : Robot K) (chunk : CartesianChunk K)
    (raiseOnStop record : Bool) (calls : List (Call (effects K))) (result : ExecutionResult K)
    (robot' : Robot K)
    (ran : Trace (executeCartesianChunk chunk raiseOnStop record robot) calls
      (.done (.ok result, robot'))) :
    chunkEvents calls = [] ∨ ∃ play : ChunkPlay K, play.Of robot chunk (chunkEvents calls) ∧
      play.Returns robot (chunkEvents calls) result ∧
      (commandsOf (chunkEvents calls)).Sublist
        ((chunk.waypoints.take chunk.horizonExec).filterMap (·.gripper)) ∧
      (∀ earlier t later grip, play.ticks = earlier ++ t :: later → t.sp.gripper = some grip →
        let run := playRun play.executed robot.controlHz robot.dt play.first earlier
        (firedIn play.executed run t).run.pendingClose = none ∧
          (∀ g fireAt, run.pendingClose = some (g, fireAt) →
            commands (firedIn play.executed run t).sends = [g] ∨
              (firedIn play.executed run t).run.Recorded) ∧
          (isClosing grip t.state = false →
            commands (handledIn play.executed robot.controlHz run t).sends = [grip])) ∧
      play.finish.run.pendingClose = none ∧
      ∀ g fireAt, play.ended.pendingClose = some (g, fireAt) →
        commands play.finish.sends = [g] ∨ "close_aborted" ∈ result.log.map Prod.fst := by
  rcases executeCartesianChunk_accounted ran with ⟨none, _⟩ | ⟨play, of, returns⟩
  · exact Or.inl none
  · have returned := returns result rfl
    refine Or.inr ⟨play, of, returned, ?_, ?_, ?_, ?_⟩
    · rw [returned.whole, play.commandsOf_events]
      exact of.ordered
    · intro earlier t later grip at_tick bears
      exact of.bearing at_tick bears
    · exact (finishStep_resolves play.executed play.ended play.final).1
    · intro g fireAt pending
      rcases (finishStep_resolves play.executed play.ended play.final).2.2 g fireAt pending with
        sent | aborted
      · exact Or.inl sent
      · have agrees : play.ended.Agrees :=
          returned.ends.keeps.1 (playRun_agrees play.ticks of.fresh.agrees)
        refine Or.inr (returned.records.mpr ?_)
        exact ((finishStep_keepsRecord play.executed play.ended play.final).agrees agrees).mp aborted

end Plays

end Runs

section Realized

variable {K : Type} [Scalar K]

def sendCalls (sends : List (GripSend K)) : List (Call (effects K)) :=
  sends.map fun send => ⟨.write (.moveGripper send.cmd), .ok ()⟩

theorem emit_trace (step : GripStep K) (robot : Robot K) :
    Trace (step.emit robot) (sendCalls step.sends) (.done (.ok step.run, robot)) := by
  have sending (sends : List (GripSend K)) :
      Trace ((sends.forM fun send => backend (.moveGripper send.cmd) : RobotM K PUnit) robot)
        (sendCalls sends) (.done (.ok ⟨⟩, robot)) := by
    induction sends with
    | nil => exact .nil _
    | cons send rest ih =>
        rw [List.forM_eq_forM, List.forM_cons]
        have first : Trace (backend (.moveGripper send.cmd) robot)
            [⟨.write (.moveGripper send.cmd), .ok ()⟩] (.done (.ok (), robot)) := .cons (.nil _)
        exact Script.trace_then first ih
  unfold GripStep.emit
  rw [← List.append_nil (sendCalls step.sends)]
  exact Script.trace_then (sending step.sends) (.nil _)

theorem judgeClose_trajectory (chunk : CartesianChunk K) (run : ChunkRun K)
    (g : GripperCommand K) (state : RobotState K) :
    (judgeClose chunk run g state).run.trajectory = run.trajectory := by
  unfold judgeClose
  dsimp only
  split
  · split
    · rfl
    · rfl
  · rfl

theorem fireStep_trajectory (chunk : CartesianChunk K) (run : ChunkRun K) (state : RobotState K) :
    (fireStep chunk run state).run.trajectory = run.trajectory := by
  unfold fireStep
  split
  · rfl
  · rename_i g fireAt pending
    split
    · exact judgeClose_trajectory chunk { run with pendingClose := none } g state
    · rfl

theorem gripStep_trajectory (chunk : CartesianChunk K) (hz : K) (sp : CartesianSetpoint K)
    (run : ChunkRun K) (state : RobotState K) :
    (gripStep chunk hz sp run state).run.trajectory = run.trajectory := by
  unfold gripStep
  split
  · rfl
  · unfold handleStep
    split
    · split
      · rfl
      · unfold settleStep
        split
        · rfl
        · rename_i g fireAt pending
          exact judgeClose_trajectory chunk { run with pendingClose := none } g state
    · rfl

theorem handledIn_trajectory (chunk : CartesianChunk K) (hz : K) (run : ChunkRun K)
    (t : StreamedTick K) : (handledIn chunk hz run t).run.trajectory = run.trajectory := by
  have entered : (run.entering t).trajectory = run.trajectory := by
    unfold ChunkRun.entering
    dsimp only
    split
    · rfl
    · rfl
  exact (gripStep_trajectory chunk hz t.sp _ t.state).trans
    ((fireStep_trajectory chunk _ t.state).trans entered)

def tickCalls (chunk : CartesianChunk K) (hz : K) (run : ChunkRun K) (t : StreamedTick K) :
    List (Call (effects K)) :=
  clearCartesianTick t.state t.pose (chunkWrench chunk) ++ sendCalls (sendsIn chunk hz run t)

theorem cartesianTick_realized {robot : Robot K} (chunk : CartesianChunk K) {cap : Wrench K}
    {t : StreamedTick K} {f' : SafetyFilter K} (passes : t.Passes cap robot.filter f')
    (plain : t.rows = none) {run : ChunkRun K} (unrecorded : run.trajectory = none) (t0 : K) :
    Trace (cartesianTick chunk cap t0 t.sp run robot) (tickCalls chunk robot.controlHz run t)
      (.done (.ok (run.afterTick chunk robot.controlHz robot.dt t, true),
        { robot with filter := f' })) := by
  let hz := robot.controlHz
  let robot' : Robot K := { robot with filter := f' }
  have records : recordRow t0 t.pose t.state (handledIn chunk hz run t).run =
      pure (handledIn chunk hz run t).run := by
    unfold recordRow
    rw [handledIn_trajectory, unrecorded]
  have last : (handledIn chunk hz run t).run.record robot.dt t.state t.pose.pos =
      run.afterTick chunk hz robot.dt t := by
    have same : { (handledIn chunk hz run t).run with trajectory := t.rows } =
        (handledIn chunk hz run t).run := by
      rw [plain, ← unrecorded, ← handledIn_trajectory chunk hz run t]
    unfold ChunkRun.afterTick
    rw [same]
  have after : Trace (afterStream chunk t0 t.sp t.state t.pose (run.entering t) robot')
      (sendCalls (firedIn chunk run t).sends ++
        (sendCalls (handledIn chunk hz run t).sends ++ ([] ++ [])))
      (.done (.ok (run.afterTick chunk hz robot.dt t), robot')) := by
    rw [← last]
    unfold afterStream
    simp only [firePending_emits, gripperPhase_emits]
    apply Script.trace_silent (x := get) (.nil _)
    apply Script.trace_then (emit_trace (firedIn chunk run t) robot')
    apply Script.trace_then (emit_trace (handledIn chunk hz run t) robot')
    rw [records]
    exact Script.trace_then (.nil _) (.nil _)
  have sends : sendCalls (firedIn chunk run t).sends ++
      (sendCalls (handledIn chunk hz run t).sends ++ ([] ++ [])) =
        sendCalls (sendsIn chunk hz run t) ++ [] := by
    rw [List.append_nil, List.append_nil, List.append_nil]
    exact List.map_append.symm
  rw [sends] at after
  have filtered : Trace (filterCartesian t.sp.pose t.state (some cap) robot) []
      (.done (.ok t.sr, robot')) := by
    change Trace (Program.done ((Except.ok (robot.filter.filterCartesian t.sp.pose t.state
      (some cap)).1 : Except Exc (SafetyResult K)),
        { robot with filter := (robot.filter.filterCartesian t.sp.pose t.state (some cap)).2 })) _ _
    rw [passes.filtered]
    exact .nil _
  refine .cons (.cons (.cons (.cons ?_)))
  change Trace ((if exceeds t.state.wrench cap = true then _ else
    (filterCartesian t.sp.pose t.state (some cap) >>= _) : RobotM K (ChunkRun K × Bool)) robot) _ _
  rw [if_neg (by rw [passes.light]; exact Bool.false_ne_true)]
  apply Script.trace_silent filtered
  simp only [passes.streamed.1, passes.streamed.2]
  refine .cons ?_
  have ended : Trace ((do
      let run ← afterStream chunk t0 t.sp t.state t.pose (run.entering t)
      pure (run, true) : RobotM K (ChunkRun K × Bool)) robot')
      ((sendCalls (sendsIn chunk hz run t) ++ []) ++ [])
      (.done (.ok (run.afterTick chunk hz robot.dt t, true), robot')) :=
    Script.trace_then after (.nil _)
  rw [List.append_nil, List.append_nil] at ended
  exact ended

def playCalls (chunk : CartesianChunk K) (hz dt : K) :
    ChunkRun K → List (StreamedTick K) → List (Call (effects K))
  | _, [] => []
  | run, t :: ticks =>
      tickCalls chunk hz run t ++ playCalls chunk hz dt (run.afterTick chunk hz dt t) ticks

theorem cartesianTicks_realized (chunk : CartesianChunk K) {cap : Wrench K} (t0 : K)
    (ticks : List (StreamedTick K)) :
    ∀ {robot : Robot K} {run : ChunkRun K}, FiltersThrough cap robot.filter ticks →
      (∀ t ∈ ticks, t.rows = none) → run.trajectory = none →
      ∃ robot', Trace (cartesianTicks chunk cap t0 (ticks.map (·.sp)) run robot)
        (playCalls chunk robot.controlHz robot.dt run ticks)
        (.done (.ok (playRun chunk robot.controlHz robot.dt run ticks), robot')) := by
  induction ticks with
  | nil => exact fun _ _ _ => ⟨_, .nil _⟩
  | cons t ticks ih =>
      intro robot run through plain unrecorded
      obtain ⟨f', passes, later⟩ := through
      have now := cartesianTick_realized chunk passes (plain t List.mem_cons_self)
        unrecorded t0
      have still : (run.afterTick chunk robot.controlHz robot.dt t).trajectory = none :=
        plain t List.mem_cons_self
      have later' : FiltersThrough cap ({ robot with filter := f' } : Robot K).filter ticks := later
      obtain ⟨robot', rest⟩ := ih later' (fun t inTicks => plain t (List.mem_cons_of_mem _ inTicks))
        still
      exact ⟨robot', Script.trace_then now rest⟩

theorem watch_sendCalls (sends : List (GripSend K)) :
    ∀ w : Watch K, (sendCalls sends).foldl Watch.next w =
      { w with events := w.events ++ movedBy sends } := by
  induction sends with
  | nil =>
      intro w
      change w = { w with events := w.events ++ [] }
      rw [List.append_nil]
  | cons send rest ih =>
      intro w
      change (sendCalls rest).foldl Watch.next (w.next _) = _
      rw [ih]
      change { w with events := (w.events ++ [ChunkEvent.moved send.cmd]) ++ movedBy rest } = _
      rw [List.append_assoc]
      rfl

theorem watch_playCalls (chunk : CartesianChunk K) (hz dt : K) (ticks : List (StreamedTick K)) :
    ∀ run (w : Watch K), ((playCalls chunk hz dt run ticks).foldl Watch.next w).events =
      w.events ++ playEvents chunk hz dt run ticks := by
  induction ticks with
  | nil => exact fun _ w => (List.append_nil w.events).symm
  | cons t ticks ih =>
      intro run w
      unfold playCalls tickCalls playEvents tickEvents
      rw [List.foldl_append, List.foldl_append, ih, watch_sendCalls]
      change ((w.events ++ [ChunkEvent.streamed (some t.state) t.pose]) ++ movedBy _) ++ _ = _
      rw [List.append_assoc, List.append_assoc, List.cons_append]
      rfl

end Realized

/-! ### A grasp after a skipped close -/

theorem oneFrame_timed : (some (1 : Int)).isSome ∨ (none : Option ℝ).isSome := Or.inl rfl

theorem oneFrame_positive : ∀ n : Int, some 1 = some n → 0 < n := by
  intro n frames
  cases frames
  decide

noncomputable def holdWaypoint (grip : GripperCommand ℝ) : CartesianWaypoint ℝ where
  position := overTable.pos
  quaternion := none
  gripper := some grip
  nFrames := some 1
  duration := none
  frame := "base"
  timed := oneFrame_timed
  framesPositive := oneFrame_positive

noncomputable def holdPoint (grip : GripperCommand ℝ) (segment : Nat) : CartesianSetpoint ℝ where
  pose := overTable
  gripper := some grip
  segment := segment
  segmentTicks := 1

theorem requestedTicks_oneFrame (grip : GripperCommand ℝ) {hz : ℝ} (ticking : 0 < hz) :
    requestedTicks ((holdWaypoint grip).resolveDuration hz) hz = 1 := by
  apply requestedTicks_whole (n := 1)
  change Scalar.ofInt 1 / hz * hz = ((1 : ℕ) : ℝ)
  rw [div_mul_cancel₀ _ ticking.ne', Scalar.ofInt_real, Int.cast_one, Nat.cast_one]

theorem setpointsFrom_hold (interp : CartesianChunkInterpolator ℝ) (ticking : 0 < interp.hz)
    (grips : List (GripperCommand ℝ)) :
    ∀ segIdx, interp.setpointsFrom overTable.pos 1 segIdx (grips.map holdWaypoint) =
      (grips.zipIdx segIdx).map fun grip => holdPoint grip.1 grip.2 := by
  have still : (overTable.pos - overTable.pos : Vec3 ℝ).norm = 0 := by
    norm_num [Vec3.norm]
  have blended (s : ℝ) : overTable.pos + (overTable.pos - overTable.pos) * s = overTable.pos := by
    apply Vec3.ext
    · simp
    · simp
    · simp
  have unit : quatNormalize (1 : Quat ℝ) = 1 := quatNormalize_of_unit Quat.norm_one zero_le_one
  induction grips with
  | nil => exact fun _ => rfl
  | cons grip rest ih =>
      intro segIdx
      have ticks : interp.segmentTicks overTable.pos (holdWaypoint grip).position 1
          ((holdWaypoint grip).quaternion.getD 1) (holdWaypoint grip) = 1 := by
        unfold CartesianChunkInterpolator.segmentTicks
        dsimp only
        rw [requestedTicks_oneFrame grip ticking]
        have linear := cappedTicks_zero interp.maxLinearSpeed interp.dt
        have angular := cappedTicks_zero interp.maxAngularSpeed interp.dt
        change (max 1 (max (max 1 (cappedTicks interp.maxLinearSpeed interp.dt
          (overTable.pos - overTable.pos).norm)) (cappedTicks interp.maxAngularSpeed interp.dt
            (quatAngle 1 1)))).toNat = 1
        rw [still, quatAngle_of_aligned rfl, max_eq_left linear, max_eq_left angular, max_self]
        rfl
      have now : CartesianChunkInterpolator.segment overTable.pos overTable.pos 1 1 (some grip)
          segIdx 1 = [holdPoint grip segIdx] := by
        unfold CartesianChunkInterpolator.segment
        rw [List.range_one, List.map_singleton]
        dsimp only
        rw [blended, quatSlerp_of_aligned rfl, unit]
        rfl
      rw [List.map_cons, CartesianChunkInterpolator.setpointsFrom, ticks]
      exact congrArg₂ (· ++ ·) now (ih (segIdx + 1))

/-! The run: two closes and a grasp, the arm pushed away before the third tick. -/

noncomputable def firstClose : GripperCommand ℝ := { width := 3 / 100 }

noncomputable def secondClose : GripperCommand ℝ := { width := 2 / 100 }

noncomputable def forceGrasp : GripperCommand ℝ := { grasp := true }

theorem oneCentimetre_positive : ∀ g ∈ some (1 / 100 : ℝ), ¬ g ≤ 0 := by
  intro g given
  cases given
  norm_num

noncomputable def regraspChunk : CartesianChunk ℝ where
  waypoints := [firstClose, secondClose, forceGrasp].map holdWaypoint
  gripTrackingGateM := some (1 / 100)
  nonempty := List.cons_ne_nil _ _
  allowanceNonneg := no_allowance
  gatePositive := oneCentimetre_positive

noncomputable def openState : RobotState ℝ := { poised with gripperWidth := 10 / 100 }

noncomputable def pushedState : RobotState ℝ :=
  { openState with tcpPose := ⟨⟨1 / 2, 0, 35 / 100⟩, 1⟩ }

noncomputable def holdTick (grip : GripperCommand ℝ) (segment : Nat) (state : RobotState ℝ) :
    StreamedTick ℝ where
  sp := holdPoint grip segment
  state := state
  sr := { ok := true, pose := some overTable, clipped := false, clipReasons := [] }
  pose := overTable
  rows := none

noncomputable def regraspTicks : List (StreamedTick ℝ) :=
  [holdTick firstClose 0 openState, holdTick secondClose 1 openState,
    holdTick forceGrasp 2 pushedState]

noncomputable def regraspStart : ChunkRun ℝ :=
  { result := tabletopRobot.opening regraspChunk regraspChunk, prevPos := overTable.pos }

theorem regrasp_setpoints :
    (tabletopRobot.interpolator regraspChunk overTable).setpoints = regraspTicks.map (·.sp) :=
  setpointsFrom_hold _ tabletopRobot_paced.ticking [firstClose, secondClose, forceGrasp] 0

theorem holdTicks_pass {cap : Wrench ℝ} (ticks : List (StreamedTick ℝ))
    (holding : ∀ t ∈ ticks, ∃ grip segment state, t = holdTick grip segment state ∧
      exceeds state.wrench cap = false) :
    ∀ {robot : Robot ℝ}, robot.FiltersFrom tabletop (1 / tabletopRobot.controlHz) overTable →
      FiltersThrough cap robot.filter ticks := by
  induction ticks with
  | nil => exact fun _ => trivial
  | cons t ticks ih =>
      intro robot filters
      obtain ⟨grip, segment, state, same, light⟩ := holding t List.mem_cons_self
      have still : (overTable.pos - overTable.pos : Vec3 ℝ).norm ≤
          tabletop.maxLinearSpeed * (1 / tabletopRobot.controlHz) := by
        norm_num [Vec3.norm, tabletop, tabletopRobot, Robot.init]
      obtain ⟨v, passed⟩ := filters.passes tabletop_positiveCaps rfl
        (tabletopRobot_paced.step ▸ tabletopRobot_roomy) (overTable_contains rfl rfl rfl) rfl still
        light
      have filters' : ({ robot with filter := { robot.filter with
          prevPose := some overTable, prevLinVel := some v } } : Robot ℝ).FiltersFrom tabletop
            (1 / tabletopRobot.controlHz) overTable := ⟨filters.profile, filters.step, rfl⟩
      refine ⟨_, ⟨?_, ?_, ?_⟩, ih (fun t inTicks => holding t (List.mem_cons_of_mem _ inTicks))
        filters'⟩
      · rw [same]
        exact passed
      · rw [same]
        exact ⟨rfl, rfl⟩
      · rw [same]
        exact light

theorem openState_light : exceeds openState.wrench (effectiveWrenchCap tabletop regraspChunk) =
    false := by
  rw [Bool.eq_false_iff, ne_eq, exceeds_real]
  rintro ⟨axis, above⟩
  fin_cases axis <;>
    norm_num [openState, poised, effectiveWrenchCap, grantedAllowance, regraspChunk, tabletop]
      at above

theorem regraspTicks_pass : FiltersThrough (effectiveWrenchCap tabletop regraspChunk)
    (tabletopRobot.filter.reset (some openState)) regraspTicks := by
  have filters : ({ tabletopRobot with
      filter := tabletopRobot.filter.reset (some openState) } : Robot ℝ).FiltersFrom tabletop
        (1 / tabletopRobot.controlHz) overTable :=
    ⟨(tabletopRobot.filter.reset_p _ _ _).trans tabletopRobot_paced.profile,
      (tabletopRobot.filter.reset_dt _ _ _).trans tabletopRobot_paced.step, rfl⟩
  refine holdTicks_pass regraspTicks ?_ filters
  intro t member
  simp only [regraspTicks, List.mem_cons, List.not_mem_nil, or_false] at member
  rcases member with same | same | same
  · exact ⟨_, _, _, same, openState_light⟩
  · exact ⟨_, _, _, same, openState_light⟩
  · exact ⟨_, _, _, same, openState_light⟩

noncomputable def regraspAt (run : ChunkRun ℝ) (t : StreamedTick ℝ) : ChunkRun ℝ :=
  run.afterTick regraspChunk tabletopRobot.controlHz tabletopRobot.dt t

structure Waiting (run : ChunkRun ℝ) (g : GripperCommand ℝ) (tick : Nat) (issued : Bool) : Prop where
  pending : ∃ fireAt : Int, run.pendingClose = some (g, fireAt) ∧ fireAt ≤ tick + 1
  counted : run.tickIdx = tick
  unaborted : run.closeAborted = false
  issued : run.closeIssued = issued
  unclipped : run.result.clipped = false
  commanded : run.prevCmdPos = some overTable.pos

theorem settleTicks_one (hz : ℝ) : settleTicks hz 1 ≤ 1 := by
  unfold settleTicks
  exact min_le_right _ _

theorem narrow_closing {grip : GripperCommand ℝ} (narrow : grip.width < 5 / 100) :
    isClosing grip openState = true := by
  unfold isClosing
  rw [Bool.or_eq_true, Bool.and_eq_true]
  refine Or.inr ⟨?_, ?_⟩
  · norm_num [openState]
  · rw [decide_eq_true_eq]
    norm_num [openState]
    linarith

theorem narrow_waits (run : ChunkRun ℝ) {grip : GripperCommand ℝ} (segment : Nat)
    (narrow : grip.width < 5 / 100) (plain : grip.grasp = false)
    {fired : ChunkRun ℝ} {sends : List (GripSend ℝ)}
    (first : firedIn regraspChunk run (holdTick grip segment openState) = ⟨fired, sends⟩)
    (idle : fired.pendingClose = none) (unaborted : fired.closeAborted = false)
    (unclipped : fired.result.clipped = false) :
    Waiting (regraspAt run (holdTick grip segment openState)) grip fired.tickIdx
        fired.closeIssued ∧
      sendsIn regraspChunk tabletopRobot.controlHz run (holdTick grip segment openState) = sends := by
  have held : gated regraspChunk fired grip openState = true := by
    unfold gated
    rw [narrow_closing narrow, plain]
    rfl
  have handled : handledIn regraspChunk tabletopRobot.controlHz run
      (holdTick grip segment openState) = { run := { fired with
        pendingClose := some (grip, fired.tickIdx + settleTicks tabletopRobot.controlHz 1) } } := by
    unfold handledIn
    rw [first]
    exact gripStep_defers _ _ rfl held unaborted idle
  constructor
  · unfold regraspAt ChunkRun.afterTick
    rw [handled]
    refine ⟨⟨_, rfl, ?_⟩, rfl, unaborted, rfl, unclipped, rfl⟩
    have soon := settleTicks_one tabletopRobot.controlHz
    omega
  · unfold sendsIn
    rw [handled, first, List.append_nil]

theorem Waiting.judged {run : ChunkRun ℝ} {g : GripperCommand ℝ} {tick : Nat} {issued : Bool}
    (waiting : Waiting run g tick issued) (grip : GripperCommand ℝ) (segment : Nat)
    (state : RobotState ℝ) :
    firedIn regraspChunk run (holdTick grip segment state) = judgeClose regraspChunk
      { run.reach (holdPoint grip segment) with pendingClose := none } g state := by
  obtain ⟨⟨fireAt, pending, soon⟩, counted, _⟩ := waiting
  have due : fireAt ≤ ((run.reach (holdPoint grip segment)).tickIdx : Int) := by
    change fireAt ≤ ((run.tickIdx + 1 : Nat) : Int)
    rw [counted]
    exact_mod_cast soon
  have kept : (run.reach (holdPoint grip segment)).pendingClose = some (g, fireAt) := pending
  exact fireStep_judges regraspChunk kept due state

theorem judged_near (run : ChunkRun ℝ) (unaborted : run.closeAborted = false)
    (unclipped : run.result.clipped = false) (commanded : run.prevCmdPos = some overTable.pos)
    (g : GripperCommand ℝ) :
    judgeClose regraspChunk run g openState =
      ⟨{ run with closeIssued := true }, [⟨g, openState, run⟩]⟩ := by
  have near : ¬ (1 / 100 : ℝ) < run.trackingError openState := by
    unfold ChunkRun.trackingError
    rw [commanded]
    norm_num [openState, poised, Vec3.norm]
  have passes : ¬ (run.closeAborted = true ∨ run.result.clipped = true ∨
      regraspChunk.gripTrackingGateM.getD 0 < run.trackingError openState) := by
    rw [unaborted, unclipped]
    rintro (aborted | clipped | far)
    · cases aborted
    · cases clipped
    · exact near far
  unfold judgeClose
  exact if_neg passes

theorem judged_far (run : ChunkRun ℝ) (unaborted : run.closeAborted = false)
    (commanded : run.prevCmdPos = some overTable.pos) (g : GripperCommand ℝ) :
    ∃ result, judgeClose regraspChunk run g pushedState =
      ⟨{ run with closeAborted := true, result := result }, []⟩ := by
  have far : (1 / 100 : ℝ) < run.trackingError pushedState := by
    have apart : (overTable.pos - pushedState.tcpPose.pos : Vec3 ℝ).norm = 5 / 100 := by
      have square : (overTable.pos - pushedState.tcpPose.pos).x *
          (overTable.pos - pushedState.tcpPose.pos).x +
          (overTable.pos - pushedState.tcpPose.pos).y *
            (overTable.pos - pushedState.tcpPose.pos).y +
          (overTable.pos - pushedState.tcpPose.pos).z *
            (overTable.pos - pushedState.tcpPose.pos).z = (5 / 100 : ℝ) * (5 / 100) := by
        norm_num [pushedState, overTable]
      rw [Vec3.norm, square]
      exact Real.sqrt_mul_self (by norm_num)
    unfold ChunkRun.trackingError
    rw [commanded]
    dsimp only
    rw [apart]
    norm_num
  refine ⟨run.result.note "close_aborted" (.closeAborted run.currentSegment
    (run.trackingError pushedState) (1 / 100) run.result.clipped), ?_⟩
  unfold judgeClose
  refine (if_pos (Or.inr (Or.inr far))).trans (if_neg ?_)
  rw [unaborted]
  exact Bool.false_ne_true

theorem grasp_passes {run : ChunkRun ℝ} {g : GripperCommand ℝ} {tick : Nat}
    (waiting : Waiting run g tick true) :
    ∃ third : ChunkRun ℝ, third.closeAborted = true ∧
      sendsIn regraspChunk tabletopRobot.controlHz run (holdTick forceGrasp 2 pushedState) =
        [⟨forceGrasp, pushedState, third⟩] ∧
      (regraspAt run (holdTick forceGrasp 2 pushedState)).pendingClose = none := by
  obtain ⟨result, far⟩ := judged_far { run.reach (holdPoint forceGrasp 2) with
    pendingClose := none } waiting.unaborted waiting.commanded g
  have fired := (waiting.judged forceGrasp 2 pushedState).trans far
  have free : gated regraspChunk (firedIn regraspChunk run (holdTick forceGrasp 2 pushedState)).run
      forceGrasp pushedState = false := by
    rw [fired]
    unfold gated
    have issued := waiting.issued
    change (_ && (_ && !(true && run.closeIssued))) = false
    rw [issued]
    exact Bool.and_false _
  have handled : handledIn regraspChunk tabletopRobot.controlHz run
      (holdTick forceGrasp 2 pushedState) = _ := gripStep_passes _ _ rfl free
  refine ⟨(firedIn regraspChunk run (holdTick forceGrasp 2 pushedState)).run, ?_, ?_, ?_⟩
  · rw [fired]
  · unfold sendsIn
    rw [handled, fired]
    rfl
  · unfold regraspAt ChunkRun.afterTick
    rw [handled, fired]
    rfl

theorem regrasp_sends : ∃ first third : ChunkRun ℝ,
    playSends regraspChunk tabletopRobot.controlHz tabletopRobot.dt regraspStart regraspTicks =
      [⟨firstClose, openState, first⟩, ⟨forceGrasp, pushedState, third⟩] ∧
    third.closeAborted = true ∧
    (playRun regraspChunk tabletopRobot.controlHz tabletopRobot.dt regraspStart
      regraspTicks).pendingClose = none := by
  have narrow₁ : firstClose.width < 5 / 100 := by norm_num [firstClose]
  have narrow₂ : secondClose.width < 5 / 100 := by norm_num [secondClose]
  obtain ⟨waiting₁, sends₁⟩ := narrow_waits regraspStart 0 narrow₁ rfl rfl rfl rfl rfl
  let second : ChunkRun ℝ :=
    { (regraspAt regraspStart (holdTick firstClose 0 openState)).reach (holdPoint secondClose 1) with
      pendingClose := none }
  have fired₂ := (waiting₁.judged secondClose 1 openState).trans
    (judged_near second waiting₁.unaborted waiting₁.unclipped waiting₁.commanded firstClose)
  obtain ⟨waiting₂, sends₂⟩ := narrow_waits _ 1 narrow₂ rfl fired₂ rfl waiting₁.unaborted
    waiting₁.unclipped
  obtain ⟨third, aborted, sends₃, idle⟩ := grasp_passes waiting₂
  refine ⟨second, third, ?_, aborted, idle⟩
  change sendsIn regraspChunk _ regraspStart (holdTick firstClose 0 openState) ++
    (sendsIn regraspChunk _ (regraspAt regraspStart (holdTick firstClose 0 openState))
        (holdTick secondClose 1 openState) ++
      (sendsIn regraspChunk _ (regraspAt (regraspAt regraspStart (holdTick firstClose 0 openState))
        (holdTick secondClose 1 openState)) (holdTick forceGrasp 2 pushedState) ++ [])) = _
  rw [sends₁, sends₂, sends₃]
  rfl

noncomputable def regraspPlay : ChunkPlay ℝ where
  start := openState
  executed := regraspChunk
  first := regraspStart
  ticks := regraspTicks
  ended := playRun regraspChunk tabletopRobot.controlHz tabletopRobot.dt regraspStart regraspTicks
  final := openState

noncomputable def regraspCalls : List (Call (effects ℝ)) :=
  cartesianAround openState (playCalls regraspChunk tabletopRobot.controlHz tabletopRobot.dt
    regraspStart regraspTicks) (regraspPlay.ended.report openState openState)

theorem regraspPlay_finish : regraspPlay.finish = { run := regraspPlay.ended } := by
  obtain ⟨_, _, _, _, idle⟩ := regrasp_sends
  exact finishStep_silent idle openState

theorem regraspCalls_events : chunkEvents regraspCalls = regraspPlay.events tabletopRobot := by
  have ticks := watch_playCalls regraspChunk tabletopRobot.controlHz tabletopRobot.dt regraspTicks
    regraspStart { last := some openState }
  unfold chunkEvents regraspCalls cartesianAround ChunkPlay.events
  rw [regraspPlay_finish, List.foldl_append, List.foldl_append]
  exact ticks.trans (List.append_nil _).symm

theorem regrasp_runs : ∃ robot', Trace (executeCartesianChunk regraspChunk false false tabletopRobot)
    regraspCalls (.done (.ok (regraspPlay.ended.report openState openState), robot')) := by
  have plain : ∀ t ∈ regraspTicks, t.rows = none := by
    intro t member
    simp only [regraspTicks, List.mem_cons, List.not_mem_nil, or_false] at member
    rcases member with same | same | same
    · rw [same]
      rfl
    · rw [same]
      rfl
    · rw [same]
      rfl
  let reset : Robot ℝ :=
    { tabletopRobot with filter := tabletopRobot.filter.reset (some openState) }
  have passes : FiltersThrough (effectiveWrenchCap tabletop regraspChunk) reset.filter
    regraspTicks := regraspTicks_pass
  have untracked : regraspStart.trajectory = none := rfl
  obtain ⟨robot', ran⟩ := cartesianTicks_realized regraspChunk 0 regraspTicks passes plain untracked
  obtain ⟨_, _, _, _, idle⟩ := regrasp_sends
  rw [← regrasp_setpoints] at ran
  exact ⟨robot', executeCartesianChunk_trace rfl (Or.inl rfl) rfl rfl idle ran⟩

theorem regraspPlay_of :
    regraspPlay.Of tabletopRobot regraspChunk (chunkEvents regraspCalls) where
  resolved := rfl
  fresh := by
    refine ⟨?_, rfl, rfl, rfl, rfl, rfl⟩
    have blank : ({} : ExecutionResult ℝ).Clean := ⟨rfl, rfl, by exact List.not_mem_nil⟩
    exact (((blank.note (by decide) _).note (by decide) _).note (by decide) _).note (by decide) _
  follows := by
    rw [show regraspPlay.setpoints tabletopRobot = _ from regrasp_setpoints]
    exact List.prefix_rfl
  filtered := regraspTicks_pass
  ends := Or.inl (Or.inl ⟨regrasp_setpoints, rfl⟩)
  inside := by
    rw [regraspCalls_events]

theorem grasp_sent_after_skip :
    ¬ ∀ (robot : Robot ℝ) (chunk : CartesianChunk ℝ), chunk.gripTrackingGateM.isSome = true →
      ∀ (raiseOnStop record : Bool) (calls : List (Call (effects ℝ)))
        (q : Program (effects ℝ) (Except Exc (ExecutionResult ℝ) × Robot ℝ)),
        Trace (executeCartesianChunk chunk raiseOnStop record robot) calls q →
        ∀ play : ChunkPlay ℝ, play.Of robot chunk (chunkEvents calls) →
          chunkEvents calls = play.events robot →
          ∀ send ∈ play.sends robot, send.run.Recorded → isClosing send.cmd send.state = false := by
  intro claimed
  obtain ⟨robot', ran⟩ := regrasp_runs
  obtain ⟨first, third, sends, aborted, _⟩ := regrasp_sends
  have member : ⟨forceGrasp, pushedState, third⟩ ∈ regraspPlay.sends tabletopRobot := by
    unfold ChunkPlay.sends
    rw [regraspPlay_finish, List.append_nil]
    change _ ∈ playSends regraspChunk tabletopRobot.controlHz tabletopRobot.dt regraspStart
      regraspTicks
    rw [sends]
    exact List.mem_cons_of_mem _ List.mem_cons_self
  have recorded : third.Recorded := (regraspPlay_of.recording.1 _ member).mp aborted
  have opens := claimed tabletopRobot regraspChunk rfl false false regraspCalls _ ran regraspPlay
    regraspPlay_of regraspCalls_events _ member recorded
  cases opens

/-- The second close is skipped and reported, and the grasp that is sent follows the first. -/
theorem skipped_close_stays_skipped_regrasp :
    ∃ calls result robot', Trace (executeCartesianChunk regraspChunk false false tabletopRobot) calls
        (.done (.ok result, robot')) ∧
      commandsOf (chunkEvents calls) = [firstClose, forceGrasp] ∧
      "close_aborted" ∈ result.log.map Prod.fst ∧
      ∃ play : ChunkPlay ℝ, play.Of tabletopRobot regraspChunk (chunkEvents calls) ∧
        play.Returns tabletopRobot (chunkEvents calls) result ∧
        ∀ before send after, play.sends tabletopRobot = before ++ send :: after →
          send.run.Recorded → isClosing send.cmd send.state = true →
            send.cmd.grasp = true ∧ ∃ earlier ∈ before, play.Closes earlier.cmd := by
  obtain ⟨robot', ran⟩ := regrasp_runs
  obtain ⟨first, third, sends, aborted, _⟩ := regrasp_sends
  have all : regraspPlay.sends tabletopRobot =
      [⟨firstClose, openState, first⟩, ⟨forceGrasp, pushedState, third⟩] := by
    unfold ChunkPlay.sends
    rw [regraspPlay_finish, List.append_nil]
    exact sends
  have commanded : commandsOf (chunkEvents regraspCalls) = [firstClose, forceGrasp] := by
    rw [regraspCalls_events, ChunkPlay.commandsOf_events, all]
    rfl
  have skipped : regraspPlay.ended.closeAborted = true :=
    (playSends_recording regraspChunk tabletopRobot.controlHz tabletopRobot.dt regraspTicks
      regraspStart).until_end _ (sends ▸ List.mem_cons_of_mem _ List.mem_cons_self) aborted
  have reported := (report_records regraspPlay.ended openState openState).mpr
    ((playRun_agrees regraspTicks regraspPlay_of.fresh.agrees).mp skipped)
  refine ⟨_, _, robot', ran, commanded, reported, ?_⟩
  rcases skipped_close_stays_skipped tabletopRobot regraspChunk rfl false false _ _ ran with
    none | ⟨play, of, _, _, returns, sustained⟩
  · rw [none] at commanded
    cases commanded
  · exact ⟨play, of, (returns _ robot' rfl).1, sustained⟩

theorem deferred_closes_keep_order_regrasp :
    ∃ calls result robot', Trace (executeCartesianChunk regraspChunk false false tabletopRobot) calls
        (.done (.ok result, robot')) ∧ chunkEvents calls ≠ [] ∧
      ∃ play : ChunkPlay ℝ, play.Of tabletopRobot regraspChunk (chunkEvents calls) ∧
        play.finish.run.pendingClose = none ∧
        (commandsOf (chunkEvents calls)).Sublist [firstClose, secondClose, forceGrasp] := by
  obtain ⟨robot', ran⟩ := regrasp_runs
  have streams : chunkEvents regraspCalls ≠ [] := by
    rw [regraspCalls_events]
    exact List.cons_ne_nil _ _
  rcases deferred_closes_keep_order tabletopRobot regraspChunk false false _ _ robot' ran with
    none | ⟨play, of, _, ordered, _, resolved, _⟩
  · exact absurd none streams
  · exact ⟨_, _, robot', ran, streams, play, of, resolved, ordered⟩

end FlexivControl
