/-
Runs of the Cartesian executor, read as plays of the close gate.

Whatever is answered, the setpoints and gripper commands of a run are those of the ticks
it streamed, in order, each with what the gate sends on it.
-/

import FlexivControl.Robot.CloseGate
import FlexivControl.Robot.Untouched

namespace FlexivControl

open Script

section Watching

variable {K : Type} [Scalar K]

inductive ChunkEvent (K : Type) [Scalar K] where
  | streamed (measured : Option (RobotState K)) (pose : Pose K)
  | moved (cmd : GripperCommand K)

/-- The last state read, and the setpoints and gripper commands so far. -/
structure Watch (K : Type) [Scalar K] where
  last : Option (RobotState K) := none
  events : List (ChunkEvent K) := []

def BackendCall.event (last : Option (RobotState K)) : BackendCall K → List (ChunkEvent K)
  | .streamCartesian pose _ => [.streamed last pose]
  | .moveGripper cmd => [.moved cmd]
  | _ => []

def Watch.next (w : Watch K) (c : Call (effects K)) : Watch K :=
  match c with
  | ⟨.readState, .ok state⟩ => { w with last := some state }
  | ⟨.write call, _⟩ => { w with events := w.events ++ call.event w.last }
  | _ => w

/-- The setpoints and gripper commands of a trace, each setpoint with the state read last. -/
def chunkEvents (calls : List (Call (effects K))) : List (ChunkEvent K) :=
  (calls.foldl Watch.next {}).events

def watching (K : Type) [Scalar K] : Monitor (effects K) (Watch K) where
  observe := Watch.next
  admits _ _ := True
  allows _ _ := True

def movedBy (sends : List (GripSend K)) : List (ChunkEvent K) := sends.map (.moved ·.cmd)

def Makes {α : Type} (x : RobotM K α) (moves : List (ChunkEvent K)) (good : α → Prop) : Prop :=
  ∀ robot w, wp (watching K) x (fun out robot' w' => robot' = robot ∧
    ∃ made, w'.events = w.events ++ made ∧ made <+: moves ∧
      ∀ a, out = .ok a → made = moves ∧ good a) robot w

section Makes

variable {α β : Type} {good : α → Prop} {good' : β → Prop} {moves moves' : List (ChunkEvent K)}

theorem makes_pure {a : α} (holds : good a) : Makes (pure a : RobotM K α) [] good := by
  intro robot w
  refine ⟨rfl, [], (List.append_nil _).symm, List.prefix_rfl, ?_⟩
  intro b same
  cases same
  exact ⟨rfl, holds⟩

theorem Makes.bind {x : RobotM K α} {f : α → RobotM K β} (first : Makes x moves good)
    (rest : ∀ a, good a → Makes (f a) moves' good') : Makes (x >>= f) (moves ++ moves') good' := by
  intro robot w
  rw [wp_bind]
  apply wp_mono (first robot w)
  rintro out robot' w' ⟨same, made, events, inside, ended⟩
  cases out with
  | error e =>
      refine ⟨same, made, events, inside.trans (List.prefix_append _ _), ?_⟩
      intro b impossible
      cases impossible
  | ok a =>
      obtain ⟨whole, holds⟩ := ended a rfl
      rw [afterStep_ok]
      apply wp_mono (rest a holds robot' w')
      rintro out' robot'' w'' ⟨same', made', events', inside', ended'⟩
      refine ⟨same'.trans same, made ++ made', ?_, ?_, ?_⟩
      · rw [events', events, List.append_assoc]
      · rw [whole]
        exact (List.prefix_append_right_inj _).mpr inside'
      · intro b returned
        obtain ⟨whole', holds'⟩ := ended' b returned
        exact ⟨by rw [whole, whole'], holds'⟩

theorem makes_backend (call : BackendCall K) (moves : List (ChunkEvent K))
    (shows : ∀ last, call.event last = moves) : Makes (backend call) moves fun _ => True := by
  intro robot w
  rw [wp_backend]
  refine ⟨trivial, fun answer _ => ?_⟩
  refine ⟨rfl, moves, ?_, List.prefix_rfl, fun _ _ => ⟨rfl, trivial⟩⟩
  exact congrArg (w.events ++ ·) (shows w.last)

theorem makes_emit (step : GripStep K) :
    Makes step.emit (movedBy step.sends) fun run => run = step.run := by
  unfold GripStep.emit
  have sending (sends : List (GripSend K)) :
      Makes (sends.forM fun send => backend (.moveGripper send.cmd)) (movedBy sends)
        fun _ => True := by
    induction sends with
    | nil => exact makes_pure trivial
    | cons send rest ih =>
        rw [List.forM_eq_forM, List.forM_cons]
        exact (makes_backend (.moveGripper send.cmd) [.moved send.cmd] fun _ => rfl).bind
          fun _ _ => ih
  have whole : Makes (do
      step.sends.forM fun send => backend (.moveGripper send.cmd)
      pure step.run) (movedBy step.sends ++ []) fun run => run = step.run :=
    (sending step.sends).bind fun _ _ => makes_pure rfl
  rwa [List.append_nil] at whole

theorem makes_recordRow (t0 : K) (pose : Pose K) (state : RobotState K) (run : ChunkRun K) :
    Makes (recordRow t0 pose state run) []
      fun run' => ∃ rows, run' = { run with trajectory := rows } := by
  unfold recordRow
  split
  · rename_i none
    exact makes_pure ⟨run.trajectory, rfl⟩
  · intro robot w
    unfold perfCounter
    rw [wp_bind, wp_op]
    refine ⟨trivial, fun now _ => ?_⟩
    exact makes_pure ⟨_, rfl⟩ robot w

end Makes

def tickEvents (chunk : CartesianChunk K) (hz : K) (run : ChunkRun K) (t : StreamedTick K) :
    List (ChunkEvent K) :=
  .streamed (some t.state) t.pose :: movedBy (sendsIn chunk hz run t)

def playEvents (chunk : CartesianChunk K) (hz dt : K) :
    ChunkRun K → List (StreamedTick K) → List (ChunkEvent K)
  | _, [] => []
  | run, t :: ticks =>
      tickEvents chunk hz run t ++ playEvents chunk hz dt (run.afterTick chunk hz dt t) ticks

theorem makes_tickEnd (t0 dt : K) (pose : Pose K) (state : RobotState K) (handled : ChunkRun K) :
    Makes (do
        let run ← recordRow t0 pose state handled
        pure (run.record dt state pose.pos)) []
      fun run => ∃ rows, run = { handled with trajectory := rows }.record dt state pose.pos := by
  have ended : Makes (do
      let run ← recordRow t0 pose state handled
      pure (run.record dt state pose.pos)) ([] ++ [])
      fun run => ∃ rows, run = { handled with trajectory := rows }.record dt state pose.pos := by
    apply (makes_recordRow t0 pose state handled).bind
    rintro recorded ⟨rows, same⟩
    rw [same]
    exact makes_pure ⟨rows, rfl⟩
  exact ended

theorem makes_afterStream (chunk : CartesianChunk K) (t0 : K) (t : StreamedTick K)
    (run : ChunkRun K) (robot : Robot K) (w : Watch K) :
    wp (watching K) (afterStream chunk t0 t.sp t.state t.pose (run.entering t))
      (fun out robot' w' => robot' = robot ∧ ∃ made, w'.events = w.events ++ made ∧
        made <+: movedBy (sendsIn chunk robot.controlHz run t) ∧
        ∀ run', out = .ok run' → made = movedBy (sendsIn chunk robot.controlHz run t) ∧
          ∃ rows, run' = run.afterTick chunk robot.controlHz robot.dt { t with rows := rows })
      robot w := by
  let hz := robot.controlHz
  let fired := firedIn chunk run t
  let handled := handledIn chunk hz run t
  have gripped : Makes (do
      let run ← handled.emit
      let run ← recordRow t0 t.pose t.state run
      pure (run.record robot.dt t.state t.pose.pos)) (movedBy handled.sends ++ [])
      fun run' => ∃ rows, run' =
        run.afterTick chunk hz robot.dt { t with rows := rows } := by
    apply (makes_emit handled).bind
    intro run' same
    rw [same]
    exact makes_tickEnd t0 robot.dt t.pose t.state handled.run
  have whole : Makes (do
      let run ← fired.emit
      let run ← (gripStep chunk hz t.sp run t.state).emit
      let run ← recordRow t0 t.pose t.state run
      pure (run.record robot.dt t.state t.pose.pos))
      (movedBy fired.sends ++ (movedBy handled.sends ++ []))
      fun run' => ∃ rows, run' = run.afterTick chunk hz robot.dt { t with rows := rows } := by
    apply (makes_emit fired).bind
    intro run' same
    rw [same]
    exact gripped
  have moves : movedBy fired.sends ++ (movedBy handled.sends ++ []) =
      movedBy (sendsIn chunk hz run t) := by
    rw [List.append_nil]
    exact List.map_append.symm
  unfold afterStream
  rw [wp_bind, wp_get, afterStep_ok]
  simp only [firePending_emits, gripperPhase_emits]
  rw [moves] at whole
  exact whole robot w

/-- The filter lets the tick's setpoint through to what it streams, and goes on as `f'`. -/
structure StreamedTick.Passes (t : StreamedTick K) (cap : Wrench K) (f f' : SafetyFilter K) :
    Prop where
  filtered : f.filterCartesian t.sp.pose t.state (some cap) = (t.sr, f')
  streamed : t.sr.ok = true ∧ t.sr.pose = some t.pose
  light : exceeds t.state.wrench cap = false

def Robot.WithFilter (robot robot' : Robot K) : Prop :=
  robot' = { robot with filter := robot'.filter }

def Ticked (chunk : CartesianChunk K) (cap : Wrench K) (sp : CartesianSetpoint K) (run : ChunkRun K)
    (robot : Robot K) (w : Watch K) (out : Except Exc (ChunkRun K × Bool)) (robot' : Robot K)
    (w' : Watch K) : Prop :=
  robot.WithFilter robot' ∧
    ((w'.events = w.events ∧ ∀ run' goOn, out = .ok (run', goOn) →
        goOn = false ∧ ∃ reason, run' = (run.reach sp).stop reason) ∨
      ∃ t : StreamedTick K, t.sp = sp ∧ t.Passes cap robot.filter robot'.filter ∧
        ∃ made, w'.events = w.events ++ made ∧ made <+: tickEvents chunk robot.controlHz run t ∧
          ∀ run' goOn, out = .ok (run', goOn) → goOn = true ∧
            made = tickEvents chunk robot.controlHz run t ∧
            run' = run.afterTick chunk robot.controlHz robot.dt t)

theorem streamedTick_ticked (chunk : CartesianChunk K) {cap : Wrench K} (t0 : K)
    {t : StreamedTick K} {robot : Robot K} {f' : SafetyFilter K}
    (passes : t.Passes cap robot.filter f') (run : ChunkRun K) (w : Watch K)
    (w' : Watch K) (read : w'.last = some t.state) (unmoved : w'.events = w.events) :
    wp (watching K) (do
        backend (.streamCartesian t.pose (chunkWrench chunk))
        let run ← afterStream chunk t0 t.sp t.state t.pose (run.entering t)
        pure (run, true))
      (Ticked chunk cap t.sp run robot w) { robot with filter := f' } w' := by
  rw [wp_bind, wp_backend]
  refine ⟨trivial, fun answer _ => ?_⟩
  have shown : (w'.next ⟨.write (.streamCartesian t.pose (chunkWrench chunk)), answer⟩).events =
      w.events ++ [.streamed (some t.state) t.pose] := by
    change w'.events ++ [ChunkEvent.streamed w'.last t.pose] = _
    rw [read, unmoved]
  cases answer with
  | error e =>
      refine ⟨rfl, Or.inr ⟨t, rfl, passes, _, shown, List.prefix_append _ _, ?_⟩⟩
      intro run' goOn impossible
      cases impossible
  | ok _ =>
      rw [afterStep_ok, wp_bind]
      apply wp_mono (makes_afterStream chunk t0 t run { robot with filter := f' } _)
      rintro out robot' w'' ⟨sameRobot, made, events, inside, ended⟩
      have grown : w''.events = w.events ++ (.streamed (some t.state) t.pose :: made) := by
        rw [events]
        change (w'.next _).events ++ made = _
        rw [shown, List.append_assoc, List.singleton_append]
      cases out with
      | error e =>
          rw [sameRobot]
          refine ⟨rfl, Or.inr ⟨t, rfl, passes, _, grown, (List.prefix_cons_inj _).mpr inside, ?_⟩⟩
          intro run' goOn impossible
          cases impossible
      | ok run' =>
          obtain ⟨whole, rows, after⟩ := ended run' rfl
          rw [sameRobot]
          refine ⟨rfl, Or.inr ⟨{ t with rows := rows }, rfl, ⟨passes.1, passes.2, passes.3⟩, _,
            grown, (List.prefix_cons_inj _).mpr inside, ?_⟩⟩
          intro run'' goOn same
          cases same
          exact ⟨rfl, congrArg _ whole, after⟩

theorem cartesianTick_ticked (chunk : CartesianChunk K) (cap : Wrench K) (t0 : K)
    (sp : CartesianSetpoint K) (run : ChunkRun K) (robot : Robot K) (w : Watch K) :
    wp (watching K) (cartesianTick chunk cap t0 sp run) (Ticked chunk cap sp run robot w)
      robot w := by
  have quiet {out : Except Exc (ChunkRun K × Bool)} {f' : SafetyFilter K} {w' : Watch K}
      (events : w'.events = w.events) (stops : ∀ run' goOn, out = .ok (run', goOn) →
        goOn = false ∧ ∃ reason, run' = (run.reach sp).stop reason) :
      Ticked chunk cap sp run robot w out { robot with filter := f' } w' :=
    ⟨rfl, Or.inl ⟨events, stops⟩⟩
  have raised (e : Exc) : ∀ run' goOn, (.error e : Except Exc (ChunkRun K × Bool)) =
      .ok (run', goOn) → goOn = false ∧ ∃ reason, run' = (run.reach sp).stop reason := by
    intro run' goOn impossible
    cases impossible
  have stopped (reason : StopReason) : ∀ run' goOn,
      (.ok ((run.reach sp).stop reason, false) : Except Exc (ChunkRun K × Bool)) =
        .ok (run', goOn) → goOn = false ∧ ∃ reason, run' = (run.reach sp).stop reason := by
    intro run' goOn same
    cases same
    exact ⟨rfl, reason, rfl⟩
  have halts (reason : StopReason) (f' : SafetyFilter K) (w' : Watch K)
      (events : w'.events = w.events) :
      wp (watching K) (do backend .stop; pure ((run.reach sp).stop reason, false))
        (Ticked chunk cap sp run robot w) { robot with filter := f' } w' := by
    rw [wp_bind, wp_backend]
    refine ⟨trivial, fun answer _ => ?_⟩
    have kept : (w'.next ⟨.write .stop, answer⟩).events = w.events :=
      (List.append_nil w'.events).trans events
    cases answer with
    | error e => exact quiet kept (raised e)
    | ok _ => exact quiet kept (stopped reason)
  unfold cartesianTick cancelIsSet
  dsimp only
  rw [wp_bind, wp_op]
  refine ⟨trivial, fun cancelled _ => ?_⟩
  rw [afterStep_ok]
  split
  · refine ⟨trivial, fun _ _ => ⟨trivial, fun answer _ => ?_⟩⟩
    have kept : ((w.next ⟨.cancelClear, ()⟩).next ⟨.write .stop, answer⟩).events = w.events :=
      List.append_nil w.events
    cases answer with
    | error e => exact quiet kept (raised e)
    | ok _ => exact quiet kept (stopped .user)
  · unfold getState
    simp only [wp_bind, wp_readState]
    refine ⟨trivial, fun answer _ => ?_⟩
    cases answer with
    | error e => exact quiet rfl (raised e)
    | ok state =>
        refine ⟨trivial, fun _ _ => ?_⟩
        change wp _ (do let faulted ← inFault; _) _ _ _
        rw [wp_bind, wp_inFault]
        refine ⟨trivial, fun fault _ => ?_⟩
        cases fault with
        | error e => exact quiet rfl (raised e)
        | ok faulted =>
            rw [afterStep_ok]
            split
            · exact halts .backendFault robot.filter _ rfl
            · split
              · exact halts .contactWrench robot.filter _ rfl
              · rename_i light
                rw [wp_bind, wp_filterCartesian, afterStep_ok]
                cases filtered : robot.filter.filterCartesian sp.pose state (some cap) with
                | mk sr f' =>
                    dsimp only
                    split
                    · rename_i pose ok made
                      let t : StreamedTick K := ⟨sp, state, sr, pose, none⟩
                      have passes : t.Passes cap robot.filter f' :=
                        ⟨filtered, ⟨ok, made⟩, Bool.eq_false_iff.mpr light⟩
                      exact streamedTick_ticked chunk t0 passes run w _ rfl rfl
                    · exact halts sr.reason f' _ rfl

/-- Each tick passes the filter as the one before it left it. -/
def FiltersThrough (cap : Wrench K) : SafetyFilter K → List (StreamedTick K) → Prop
  | _, [] => True
  | f, t :: ticks => ∃ f', t.Passes cap f f' ∧ FiltersThrough cap f' ticks

def LoopEnds (setpoints : List (CartesianSetpoint K)) (ticks : List (StreamedTick K))
    (played ended : ChunkRun K) : Prop :=
  (setpoints = ticks.map (·.sp) ∧ ended = played) ∨
    ∃ sp rest reason, setpoints = ticks.map (·.sp) ++ sp :: rest ∧
      ended = (played.reach sp).stop reason

/-- What the loop has come to after streaming `ticks`. -/
structure Played (chunk : CartesianChunk K) (cap : Wrench K)
    (setpoints : List (CartesianSetpoint K)) (run : ChunkRun K) (robot : Robot K)
    (made : List (ChunkEvent K)) (out : Except Exc (ChunkRun K)) (ticks : List (StreamedTick K)) :
    Prop where
  follows : ticks.map (·.sp) <+: setpoints
  filtered : FiltersThrough cap robot.filter ticks
  inside : made <+: playEvents chunk robot.controlHz robot.dt run ticks
  ended : ∀ run', out = .ok run' → made = playEvents chunk robot.controlHz robot.dt run ticks ∧
    LoopEnds setpoints ticks (playRun chunk robot.controlHz robot.dt run ticks) run'

theorem Robot.WithFilter.rates {robot robot' : Robot K} (same : robot.WithFilter robot') :
    robot'.controlHz = robot.controlHz ∧ robot'.dt = robot.dt ∧
      robot'.profile = robot.profile := by
  unfold WithFilter at same
  rw [same]
  exact ⟨rfl, rfl, rfl⟩

theorem Robot.WithFilter.trans {robot robot' robot'' : Robot K} (first : robot.WithFilter robot')
    (second : robot'.WithFilter robot'') : robot.WithFilter robot'' := by
  unfold WithFilter at first second ⊢
  rw [second, first]

/-- A streamed tick before what the loop comes to. -/
theorem Played.cons {chunk : CartesianChunk K} {cap : Wrench K} {sp : CartesianSetpoint K}
    {rest : List (CartesianSetpoint K)} {run : ChunkRun K} {robot robot' : Robot K}
    {t : StreamedTick K} (same : t.sp = sp) (passes : t.Passes cap robot.filter robot'.filter)
    (rates : robot.WithFilter robot') {made : List (ChunkEvent K)} {out : Except Exc (ChunkRun K)}
    {ticks : List (StreamedTick K)}
    (later : Played chunk cap rest (run.afterTick chunk robot.controlHz robot.dt t) robot' made out
      ticks) :
    Played chunk cap (sp :: rest) run robot
      (tickEvents chunk robot.controlHz run t ++ made) out (t :: ticks) := by
  obtain ⟨hz, dt, _⟩ := rates.rates
  have inside := later.inside
  have ended := later.ended
  rw [hz, dt] at inside ended
  refine ⟨?_, ⟨_, passes, later.filtered⟩, (List.prefix_append_right_inj _).mpr inside, ?_⟩
  · rw [List.map_cons, same]
    exact (List.prefix_cons_inj sp).mpr later.follows
  · intro run' returned
    obtain ⟨whole, ends⟩ := ended run' returned
    refine ⟨congrArg (_ ++ ·) whole, ?_⟩
    rcases ends with ⟨through, last⟩ | ⟨sp', rest', reason, through, last⟩
    · refine Or.inl ⟨?_, last⟩
      rw [List.map_cons, same, through]
    · refine Or.inr ⟨sp', rest', reason, ?_, last⟩
      rw [List.map_cons, same, through, List.cons_append]

theorem cartesianTicks_played (chunk : CartesianChunk K) (cap : Wrench K) (t0 : K)
    (setpoints : List (CartesianSetpoint K)) :
    ∀ run robot w, wp (watching K) (cartesianTicks chunk cap t0 setpoints run)
      (fun out robot' w' => robot.WithFilter robot' ∧ ∃ ticks made,
        w'.events = w.events ++ made ∧ Played chunk cap setpoints run robot made out ticks)
      robot w := by
  induction setpoints with
  | nil =>
      intro run robot w
      refine ⟨rfl, [], [], (List.append_nil _).symm, List.prefix_rfl, trivial, List.prefix_rfl, ?_⟩
      intro run' same
      cases same
      exact ⟨rfl, Or.inl ⟨rfl, rfl⟩⟩
  | cons sp rest ih =>
      intro run robot w
      unfold cartesianTicks
      rw [wp_bind]
      apply wp_mono (cartesianTick_ticked chunk cap t0 sp run robot w)
      rintro out robot' w' ⟨rates, ⟨still, stops⟩ | ⟨t, same, passes, made, grown, inside, goes⟩⟩
      · -- the tick stopped before its setpoint
        have noTick {out : Except Exc (ChunkRun K)} (ends : ∀ run', out = .ok run' →
            ∃ reason, run' = (run.reach sp).stop reason) :
            Played chunk cap (sp :: rest) run robot [] out [] := by
          refine ⟨List.nil_prefix, trivial, List.prefix_rfl, ?_⟩
          intro run' returned
          obtain ⟨reason, last⟩ := ends run' returned
          exact ⟨rfl, Or.inr ⟨sp, rest, reason, rfl, last⟩⟩
        cases out with
        | error e =>
            refine ⟨rates, [], [], still.trans (List.append_nil _).symm, noTick ?_⟩
            intro run' impossible
            cases impossible
        | ok result =>
            obtain ⟨run', goOn⟩ := result
            obtain ⟨halts, reason, last⟩ := stops run' goOn rfl
            rw [halts]
            refine ⟨rates, [], [], still.trans (List.append_nil _).symm, noTick ?_⟩
            intro run'' returned
            cases returned
            exact ⟨reason, last⟩
      · cases out with
        | error e =>
            refine ⟨rates, [t], made, grown, ?_, ⟨_, passes, trivial⟩, ?_, ?_⟩
            · rw [List.map_singleton, same]
              exact (List.prefix_cons_inj sp).mpr List.nil_prefix
            · exact inside.trans (List.prefix_append _ _)
            · intro run' impossible
              cases impossible
        | ok result =>
            obtain ⟨run', goOn⟩ := result
            obtain ⟨on, whole, last⟩ := goes run' goOn rfl
            rw [on, afterStep_ok]
            apply wp_mono (ih run' robot' w')
            rintro out robot'' w'' ⟨rates', ticks, made', grown', played⟩
            rw [last] at played
            refine ⟨rates.trans rates', t :: ticks, _, ?_,
              Played.cons same passes rates played⟩
            rw [grown', grown, whole, List.append_assoc]

def Finishes (chunk : CartesianChunk K) (run : ChunkRun K) (robot : Robot K) (w : Watch K)
    (out : Except Exc (ChunkRun K)) (robot' : Robot K) (w' : Watch K) : Prop :=
  robot' = robot ∧ ∃ final made, w'.events = w.events ++ made ∧
    made <+: movedBy (finishStep chunk run final).sends ∧
    ∀ run', out = .ok run' → made = movedBy (finishStep chunk run final).sends ∧
      run' = (finishStep chunk run final).run

theorem resolvePending_finishes (chunk : CartesianChunk K) (run : ChunkRun K) (robot : Robot K)
    (w : Watch K) :
    wp (watching K) (resolvePending chunk run) (Finishes chunk run robot w) robot w := by
  have done {run' : ChunkRun K} (final : RobotState K)
      (finishes : finishStep chunk run final = { run := run' }) :
      Finishes chunk run robot w (.ok run') robot w := by
    refine ⟨rfl, final, [], (List.append_nil _).symm, List.nil_prefix, ?_⟩
    intro run'' same
    cases same
    rw [finishes]
    exact ⟨rfl, rfl⟩
  let still : RobotState K := { stamp := 0 }
  unfold resolvePending
  cases pending : run.pendingClose with
  | none =>
      refine done still ?_
      unfold finishStep
      rw [pending]
  | some close =>
      obtain ⟨g, fireAt⟩ := close
      dsimp only
      split
      · rename_i succeeding
        unfold getState
        simp only [wp_bind, wp_readState]
        refine ⟨trivial, fun answer _ => ?_⟩
        cases answer with
        | error e =>
            refine ⟨rfl, still, [], (List.append_nil _).symm, List.nil_prefix, ?_⟩
            intro run' impossible
            cases impossible
        | ok final =>
            refine ⟨trivial, fun _ _ => ?_⟩
            have finishes : finishStep chunk run final =
                judgeClose chunk { run with pendingClose := none } g final := by
              unfold finishStep
              rw [pending]
              exact if_pos succeeding
            have fires (w' : Watch K) (silent : w'.events = w.events) : wp (watching K)
                (tryFireClose chunk { run with pendingClose := none } g final)
                (Finishes chunk run robot w) robot w' := by
              rw [tryFireClose_emits, ← finishes]
              apply wp_mono (makes_emit (finishStep chunk run final) robot w')
              rintro out robot' w'' ⟨same, made, events, inside, ended⟩
              exact ⟨same, final, made, silent ▸ events, inside, ended⟩
            exact fires _ rfl
      · rename_i failed
        split
        · rename_i aborted
          refine done still ?_
          unfold finishStep
          rw [pending]
          dsimp only
          rw [if_neg failed, if_pos aborted]
        · rename_i unaborted
          refine done still ?_
          unfold finishStep
          rw [pending]
          dsimp only
          rw [if_neg failed, if_neg unaborted]

/-- What the guarded part has come to, with the pending close dealt with. -/
structure Guarded (chunk : CartesianChunk K) (cap : Wrench K)
    (setpoints : List (CartesianSetpoint K)) (run : ChunkRun K) (robot : Robot K)
    (made : List (ChunkEvent K)) (out : Except Exc (ChunkRun K)) (ticks : List (StreamedTick K))
    (ended : ChunkRun K) (final : RobotState K) : Prop where
  follows : ticks.map (·.sp) <+: setpoints
  filtered : FiltersThrough cap robot.filter ticks
  inside : made <+: playEvents chunk robot.controlHz robot.dt run ticks ++
    movedBy (finishStep chunk ended final).sends
  ends : LoopEnds setpoints ticks (playRun chunk robot.controlHz robot.dt run ticks) ended ∨
    ended.pendingClose = none
  finished : ∀ run', out = .ok run' →
    made = playEvents chunk robot.controlHz robot.dt run ticks ++
      movedBy (finishStep chunk ended final).sends ∧
    LoopEnds setpoints ticks (playRun chunk robot.controlHz robot.dt run ticks) ended ∧
    (run'.Recorded ↔ (finishStep chunk ended final).run.Recorded)

theorem restoreWrenchLimit_keeps (relaxed : Bool) (run : ChunkRun K) (robot : Robot K)
    (w : Watch K) :
    wp (watching K) (restoreWrenchLimit relaxed run) (fun out robot' w' => robot' = robot ∧
      w'.events = w.events ∧ ∀ run', out = .ok run' → (run'.Recorded ↔ run.Recorded))
      robot w := by
  unfold restoreWrenchLimit
  split
  · rw [wp_bind, wp_get, afterStep_ok, wp_bind, wp_op]
    refine ⟨trivial, fun answer _ => ?_⟩
    rw [afterStep_ok]
    cases answer with
    | ok _ =>
        refine ⟨rfl, List.append_nil _, ?_⟩
        intro run' same
        cases same
        exact Iff.rfl
    | error e =>
        refine ⟨rfl, List.append_nil _, ?_⟩
        intro run' same
        cases same
        unfold ChunkRun.Recorded
        rw [mem_note]
        constructor
        · rintro (other | recorded)
          · exact absurd other (by decide)
          · exact recorded
        · exact Or.inr
  · refine ⟨rfl, rfl, ?_⟩
    intro run' same
    cases same
    exact Iff.rfl

theorem guardedTicks_guarded (chunk : CartesianChunk K) (cap : Wrench K) (relaxed : Bool) (t0 : K)
    (setpoints : List (CartesianSetpoint K)) (run : ChunkRun K) (robot : Robot K) (w : Watch K) :
    wp (watching K) (guardedTicks chunk cap relaxed t0 setpoints run)
      (fun out robot' w' => robot.WithFilter robot' ∧ ∃ ticks ended final made,
        w'.events = w.events ++ made ∧
          Guarded chunk cap setpoints run robot made out ticks ended final) robot w := by
  unfold guardedTicks
  rw [wp_bind, wp_tryCatch, wp_bind]
  apply wp_mono (cartesianTicks_played chunk cap t0 setpoints run robot w)
  rintro out robot₁ w₁ ⟨rates, ticks, made, grown, played⟩
  let still : RobotState K := { stamp := 0 }
  cases out with
  | error e =>
      rw [afterStep_error, afterStep_error, wp_pure, afterStep_ok]
      change wp _ (do let _ ← restoreWrenchLimit relaxed run; throw e) _ _ _
      rw [wp_bind]
      apply wp_mono (restoreWrenchLimit_keeps relaxed run robot₁ w₁)
      rintro out robot₂ w₂ ⟨same, silent, _⟩
      rw [same]
      have guarded (e : Exc) : Guarded chunk cap setpoints run robot made (.error e) ticks
          { run with pendingClose := none } still := by
        refine ⟨played.follows, played.filtered, played.inside.trans (List.prefix_append _ _),
          Or.inr rfl, ?_⟩
        intro run' impossible
        cases impossible
      cases out with
      | error e' => exact ⟨rates, ticks, _, still, made, silent.trans grown, guarded e'⟩
      | ok _ => exact ⟨rates, ticks, _, still, made, silent.trans grown, guarded e⟩
  | ok ended =>
      obtain ⟨whole, ends⟩ := played.ended ended rfl
      rw [afterStep_ok, wp_bind]
      apply wp_mono (resolvePending_finishes chunk ended robot₁ w₁)
      rintro out robot₂ w₂ ⟨same₂, final, made₂, grown₂, inside₂, finished₂⟩
      have grown' : w₂.events = w.events ++ (made ++ made₂) := by
        rw [grown₂, grown, List.append_assoc]
      have inside' : made ++ made₂ <+: playEvents chunk robot.controlHz robot.dt run ticks ++
          movedBy (finishStep chunk ended final).sends := by
        rw [whole]
        exact (List.prefix_append_right_inj _).mpr inside₂
      have rates' : robot.WithFilter robot₂ := by
        rw [same₂]
        exact rates
      cases out with
      | error e =>
          rw [afterStep_error, afterStep_error, wp_pure, afterStep_ok]
          change wp _ (do let _ ← restoreWrenchLimit relaxed run; throw e) _ _ _
          rw [wp_bind]
          apply wp_mono (restoreWrenchLimit_keeps relaxed run robot₂ w₂)
          rintro out robot₃ w₃ ⟨same₃, silent, _⟩
          rw [same₃]
          have guarded (e : Exc) : Guarded chunk cap setpoints run robot (made ++ made₂)
              (.error e) ticks ended final := by
            refine ⟨played.follows, played.filtered, inside', Or.inl ends, ?_⟩
            intro run' impossible
            cases impossible
          cases out with
          | error e' => exact ⟨rates', ticks, ended, final, _, silent.trans grown', guarded e'⟩
          | ok _ => exact ⟨rates', ticks, ended, final, _, silent.trans grown', guarded e⟩
      | ok run₂ =>
          obtain ⟨whole₂, same⟩ := finished₂ run₂ rfl
          rw [afterStep_ok, wp_pure, afterStep_ok, afterStep_ok]
          apply wp_mono (restoreWrenchLimit_keeps relaxed run₂ robot₂ w₂)
          rintro out robot₃ w₃ ⟨same₃, silent, kept⟩
          rw [same₃]
          refine ⟨rates', ticks, ended, final, _, silent.trans grown', played.follows,
            played.filtered, inside', Or.inl ends, ?_⟩
          intro run' returned
          refine ⟨by rw [whole, whole₂], ends, ?_⟩
          rw [← same]
          exact kept run' returned

/-! ### The whole call -/

structure ExecutionResult.Clean (result : ExecutionResult K) : Prop where
  success : result.success = true
  clipped : result.clipped = false
  unrecorded : "close_aborted" ∉ result.log.map Prod.fst

theorem ExecutionResult.Clean.note {result : ExecutionResult K} (clean : result.Clean) {key : String}
    (other : "close_aborted" ≠ key) (value : LogValue K) : (result.note key value).Clean := by
  refine ⟨clean.success, clean.clipped, ?_⟩
  rw [mem_note]
  rintro (same | recorded)
  · exact other same
  · exact clean.unrecorded recorded

/-- The locals before the first tick. -/
structure ChunkRun.Fresh (run : ChunkRun K) : Prop where
  clean : run.result.Clean
  unaborted : run.closeAborted = false
  unissued : run.closeIssued = false
  idle : run.pendingClose = none
  uncounted : run.tickIdx = 0
  uncommanded : run.prevCmdPos = none

theorem makes_readState : Makes (readState : RobotM K (RobotState K)) [] fun _ => True := by
  intro robot w
  rw [wp_readState]
  refine ⟨trivial, fun answer _ => ⟨rfl, [], ?_, List.prefix_rfl, fun _ _ => ⟨rfl, trivial⟩⟩⟩
  cases answer with
  | error e => exact (List.append_nil _).symm
  | ok state => exact (List.append_nil _).symm

theorem makes_perform {op : Op K} (silent : ∀ w answer, (Watch.next w ⟨op, answer⟩).events = w.events) :
    Makes (perform op) [] fun _ => True := by
  intro robot w
  rw [wp_op]
  refine ⟨trivial, fun answer _ => ⟨rfl, [], ?_, List.prefix_rfl, fun _ _ => ⟨rfl, trivial⟩⟩⟩
  exact (silent w answer).trans (List.append_nil _).symm

theorem makes_getState : Makes (getState : RobotM K (RobotState K)) [] fun _ => True := by
  have whole : Makes (getState : RobotM K (RobotState K)) ([] ++ ([] ++ [])) fun _ => True :=
    makes_readState.bind fun _ _ => (makes_perform fun _ _ => rfl).bind fun _ _ =>
      makes_pure trivial
  exact whole

theorem makes_verifyChunkProfile (requested : String) :
    Makes (verifyChunkProfile requested {} : RobotM K _) [] ExecutionResult.Clean := by
  intro robot w
  unfold verifyChunkProfile
  rw [wp_bind, wp_get, afterStep_ok]
  dsimp only
  split
  · refine ⟨rfl, [], (List.append_nil _).symm, List.prefix_rfl, ?_⟩
    intro result impossible
    cases impossible
  · refine makes_pure ?_ robot w
    have blank : ({} : ExecutionResult K).Clean := ⟨rfl, rfl, by exact List.not_mem_nil⟩
    exact (blank.note (by decide) _).note (by decide) _

theorem makes_ensureCartesianStart (chunk : CartesianChunk K) {result : ExecutionResult K}
    (clean : result.Clean) :
    Makes (ensureCartesianStart chunk result) [] fun out => out.2.Clean := by
  have started (start : RobotState K) : Makes (do
      startCartesianImpedance (some chunk.impedance)
      let start ← getState
      pure (start, result.note "mode_autostarted" (.flag true))) ([] ++ ([] ++ []))
      fun out : RobotState K × ExecutionResult K => out.2.Clean := by
    have mode : Makes (startCartesianImpedance (some chunk.impedance) : RobotM K Unit) []
        fun _ => True := by
      intro robot w
      unfold startCartesianImpedance
      rw [wp_bind, wp_get, afterStep_ok]
      exact makes_backend _ [] (fun _ => rfl) robot w
    exact mode.bind fun _ _ => makes_getState.bind fun _ _ =>
      makes_pure (clean.note (by decide) _)
  have whole : Makes (ensureCartesianStart chunk result) ([] ++ []) fun out => out.2.Clean := by
    apply makes_getState.bind
    intro start _
    split
    · exact makes_pure clean
    · exact started start
  exact whole

theorem makes_armWrenchLimit (relaxed : Bool) (cap : Wrench K) :
    Makes (armWrenchLimit relaxed cap) [] fun _ => True := by
  unfold armWrenchLimit
  split
  · exact makes_backend _ [] fun _ => rfl
  · exact makes_pure trivial

/-- A play of the gate: what a run streamed, and what it was started and finished with. -/
structure ChunkPlay (K : Type) [Scalar K] where
  start : RobotState K
  executed : CartesianChunk K
  first : ChunkRun K
  ticks : List (StreamedTick K)
  ended : ChunkRun K
  final : RobotState K

def ChunkPlay.setpoints (play : ChunkPlay K) (robot : Robot K) : List (CartesianSetpoint K) :=
  (executorInterpolator play.executed play.start.tcpPose robot.profile robot.controlHz).setpoints

/-- The locals after the first `n` streamed ticks. -/
def ChunkPlay.runAt (play : ChunkPlay K) (robot : Robot K) (n : Nat) : ChunkRun K :=
  playRun play.executed robot.controlHz robot.dt play.first (play.ticks.take n)

def ChunkPlay.finish (play : ChunkPlay K) : GripStep K :=
  finishStep play.executed play.ended play.final

/-- Everything the gate sends. -/
def ChunkPlay.sends (play : ChunkPlay K) (robot : Robot K) : List (GripSend K) :=
  playSends play.executed robot.controlHz robot.dt play.first play.ticks ++ play.finish.sends

def ChunkPlay.events (play : ChunkPlay K) (robot : Robot K) : List (ChunkEvent K) :=
  playEvents play.executed robot.controlHz robot.dt play.first play.ticks ++
    movedBy play.finish.sends

/-- The play is that of a call of the executor with these events: they are the play's, up to
where an exception may have cut it short. -/
structure ChunkPlay.Of (play : ChunkPlay K) (robot : Robot K) (chunk : CartesianChunk K)
    (events : List (ChunkEvent K)) : Prop where
  resolved : chunk.forExecution play.start.tcpPose = .ok play.executed
  fresh : play.first.Fresh
  follows : play.ticks.map (·.sp) <+: play.setpoints robot
  filtered : FiltersThrough (effectiveWrenchCap robot.profile chunk)
    (robot.filter.reset (some play.start)) play.ticks
  ends : LoopEnds (play.setpoints robot) play.ticks
    (playRun play.executed robot.controlHz robot.dt play.first play.ticks) play.ended ∨
      play.ended.pendingClose = none
  inside : events <+: play.events robot

/-- The call has returned its result. -/
structure ChunkPlay.Returns (play : ChunkPlay K) (robot : Robot K) (events : List (ChunkEvent K))
    (result : ExecutionResult K) : Prop where
  whole : events = play.events robot
  ends : LoopEnds (play.setpoints robot) play.ticks
    (playRun play.executed robot.controlHz robot.dt play.first play.ticks) play.ended
  records : "close_aborted" ∈ result.log.map Prod.fst ↔ play.finish.run.Recorded

theorem returnResult_keeps {result : ExecutionResult K} (raiseOnStop : Bool) (robot : Robot K)
    (w : Watch K) : wp (watching K) (returnResult result raiseOnStop) (fun out _ w' =>
      w'.events = w.events ∧ ∀ result', out = .ok result' → result' = result) robot w := by
  unfold returnResult
  rw [wp_bind, wp_op]
  refine ⟨trivial, fun _ _ => ?_⟩
  rw [afterStep_ok]
  split
  · refine ⟨rfl, ?_⟩
    intro result' impossible
    cases impossible
  · refine ⟨rfl, ?_⟩
    intro result' same
    cases same
    rfl

theorem report_records (run : ChunkRun K) (start final : RobotState K) :
    "close_aborted" ∈ (run.report start final).log.map Prod.fst ↔ run.Recorded := by
  have other : ∀ {result : ExecutionResult K} {key : String} {value : LogValue K},
      "close_aborted" ≠ key →
      ("close_aborted" ∈ (result.note key value).log.map Prod.fst ↔
        "close_aborted" ∈ result.log.map Prod.fst) := by
    intro result key value different
    rw [mem_note]
    exact or_iff_right different
  unfold ChunkRun.report ChunkRun.Recorded
  cases run.trajectory with
  | none =>
      dsimp only
      split
      · exact Iff.rfl
      · rw [other (by decide)]
  | some rows =>
      dsimp only
      split
      · rw [other (by decide)]
      · rw [other (by decide), other (by decide)]

def Accounted (robot : Robot K) (chunk : CartesianChunk K) (events : List (ChunkEvent K))
    (out : Except Exc (ExecutionResult K)) : Prop :=
  (events = [] ∧ ∀ result, out = .ok result → "close_aborted" ∉ result.log.map Prod.fst) ∨
    ∃ play : ChunkPlay K, play.Of robot chunk events ∧
      ∀ result, out = .ok result → play.Returns robot events result

theorem accounted_error {robot : Robot K} {chunk : CartesianChunk K} {events : List (ChunkEvent K)}
    (none : events = []) (e : Exc) : Accounted robot chunk events (.error e) := by
  refine Or.inl ⟨none, ?_⟩
  intro result impossible
  cases impossible

theorem armedChunk_accounted {chunk executed : CartesianChunk K} {start : RobotState K}
    {robot : Robot K} (resolved : chunk.forExecution start.tcpPose = .ok executed)
    {result : ExecutionResult K} (clean : result.Clean) (relaxed : Bool)
    (trajectory : Option (List (List K))) (raiseOnStop : Bool) (w : Watch K)
    (unwatched : w.events = []) :
    wp (watching K) (do
        armWrenchLimit relaxed (effectiveWrenchCap robot.profile executed)
        let t0 ← perfCounter
        let run ← guardedTicks executed (effectiveWrenchCap robot.profile executed) relaxed t0
          (executorInterpolator executed start.tcpPose robot.profile robot.controlHz).setpoints
          { result := result, prevPos := start.tcpPose.pos, trajectory := trajectory }
        let final ← getState
        returnResult (run.report start final) raiseOnStop)
      (fun out _ w' => Accounted robot chunk w'.events out)
      { robot with filter := robot.filter.reset (some start) } w := by
  let reset : Robot K := { robot with filter := robot.filter.reset (some start) }
  let first : ChunkRun K :=
    { result := result, prevPos := start.tcpPose.pos, trajectory := trajectory }
  have fresh : first.Fresh := ⟨clean, rfl, rfl, rfl, rfl, rfl⟩
  rw [wp_bind]
  apply wp_mono (makes_armWrenchLimit relaxed _ reset w)
  rintro out robot₁ w₁ ⟨same₁, made₁, grown₁, inside₁, _⟩
  have none₁ : w₁.events = [] := by
    rw [grown₁, unwatched, List.nil_append, List.prefix_nil.mp inside₁]
  rw [same₁]
  cases out with
  | error e => exact accounted_error none₁ e
  | ok _ =>
      unfold perfCounter
      rw [afterStep_ok, wp_bind, wp_op]
      refine ⟨trivial, fun t0 _ => ?_⟩
      rw [afterStep_ok, wp_bind]
      apply wp_mono (guardedTicks_guarded executed _ relaxed t0 _ first reset _)
      rintro out robot₂ w₂ ⟨_, ticks, ended, final, made, grown, guarded⟩
      let play : ChunkPlay K := ⟨start, executed, first, ticks, ended, final⟩
      have events : w₂.events = made := by
        rw [grown]
        change w₁.events ++ made = made
        rw [none₁, List.nil_append]
      have of : play.Of robot chunk made := by
        refine ⟨resolved, fresh, guarded.follows, ?_, guarded.ends, guarded.inside⟩
        rw [← forExecution_wrenchCap resolved]
        exact guarded.filtered
      have raised {w' : Watch K} (silent : w'.events = w₂.events) (e : Exc) :
          Accounted robot chunk w'.events (.error e) := by
        rw [silent, events]
        refine Or.inr ⟨play, of, ?_⟩
        intro result impossible
        cases impossible
      cases out with
      | error e => exact raised rfl e
      | ok run =>
          obtain ⟨whole, ends, records⟩ := guarded.finished run rfl
          rw [afterStep_ok, wp_bind]
          apply wp_mono (makes_getState robot₂ w₂)
          rintro out robot₃ w₃ ⟨_, made₃, grown₃, inside₃, _⟩
          have silent₃ : w₃.events = w₂.events := by
            rw [grown₃, List.prefix_nil.mp inside₃, List.append_nil]
          cases out with
          | error e => exact raised silent₃ e
          | ok last =>
              rw [afterStep_ok]
              apply wp_mono (returnResult_keeps raiseOnStop robot₃ w₃)
              rintro out robot₄ w₄ ⟨silent₄, returned⟩
              cases out with
              | error e => exact raised (silent₄.trans silent₃) e
              | ok result' =>
                  rw [silent₄, silent₃, events]
                  refine Or.inr ⟨play, of, ?_⟩
                  intro result'' same
                  cases same
                  refine ⟨whole, ends, ?_⟩
                  rw [returned result' rfl]
                  exact (report_records run start last).trans records

theorem runCartesianChunk_accounted (chunk : CartesianChunk K) (raiseOnStop record : Bool)
    (robot : Robot K) (w : Watch K) (unwatched : w.events = []) :
    wp (watching K) (runCartesianChunk chunk raiseOnStop record)
      (fun out _ w' => Accounted robot chunk w'.events out) robot w := by
  unfold runCartesianChunk
  rw [wp_bind]
  apply wp_mono (makes_verifyChunkProfile chunk.safetyProfile robot w)
  rintro out robot₁ w₁ ⟨same₁, made₁, grown₁, inside₁, verified⟩
  have none₁ : w₁.events = [] := by
    rw [grown₁, unwatched, List.nil_append, List.prefix_nil.mp inside₁]
  rw [same₁]
  cases out with
  | error e => exact accounted_error none₁ e
  | ok result =>
      have clean := (verified result rfl).2
      rw [afterStep_ok, wp_bind]
      apply wp_mono (makes_ensureCartesianStart chunk clean robot w₁)
      rintro out robot₂ w₂ ⟨same₂, made₂, grown₂, inside₂, ensured⟩
      have none₂ : w₂.events = [] := by
        rw [grown₂, none₁, List.nil_append, List.prefix_nil.mp inside₂]
      rw [same₂]
      cases out with
      | error e => exact accounted_error none₂ e
      | ok started =>
          obtain ⟨start, result⟩ := started
          have clean := (ensured (start, result) rfl).2
          rw [afterStep_ok]
          dsimp only
          rw [wp_bind, wp_resetFilter, afterStep_ok, wp_bind, wp_attempt]
          cases resolved : chunk.forExecution start.tcpPose with
          | error e => exact accounted_error none₂ e
          | ok executed =>
              rw [afterStep_ok, wp_bind, wp_get, afterStep_ok]
              dsimp only
              cases grantedAllowance robot.profile executed with
              | none =>
                  exact armedChunk_accounted resolved
                    ((clean.note (by decide) _).note (by decide) _) false _ raiseOnStop w₂ none₂
              | some allow =>
                  exact armedChunk_accounted resolved
                    (((clean.note (by decide) _).note (by decide) _).note (by decide) _) true _
                    raiseOnStop w₂ none₂

theorem makes_checkLease : Makes (checkLease : RobotM K Unit) [] fun _ => True := by
  have whole : Makes (checkLease : RobotM K Unit) ([] ++ []) fun _ => True := by
    apply (makes_perform fun _ _ => rfl).bind
    intro owner _
    cases owner with
    | none => exact makes_perform fun _ _ => rfl
    | some _ => exact makes_pure trivial
  exact whole

theorem abortAtEntry_accounted (robot : Robot K) (chunk : CartesianChunk K) (raiseOnStop : Bool)
    (robot' : Robot K) (w : Watch K) (unwatched : w.events = []) :
    wp (watching K) (abortAtEntry raiseOnStop)
      (fun out _ w' => Accounted robot chunk w'.events out) robot' w := by
  have blank : ({} : ExecutionResult K).Clean := ⟨rfl, rfl, by exact List.not_mem_nil⟩
  unfold abortAtEntry
  rw [wp_bind, wp_op]
  refine ⟨trivial, fun _ _ => ?_⟩
  rw [afterStep_ok, wp_bind]
  apply wp_mono (makes_getState robot' _)
  rintro out robot₁ w₁ ⟨_, made, grown, inside, _⟩
  have none : w₁.events = [] := by
    rw [grown, List.prefix_nil.mp inside, List.append_nil]
    exact unwatched
  cases out with
  | error e => exact accounted_error none e
  | ok final =>
      rw [afterStep_ok]
      apply wp_mono (returnResult_keeps raiseOnStop robot₁ w₁)
      rintro out robot₂ w₂ ⟨silent, returned⟩
      refine Or.inl ⟨silent.trans none, ?_⟩
      intro result same
      rw [returned result same]
      change _ ∉ (((({} : ExecutionResult K).stop .user).note _ _).log.map Prod.fst)
      rw [mem_note]
      rintro (other | recorded)
      · exact absurd other (by decide)
      · exact blank.unrecorded recorded

theorem executeCartesianChunk_accounted {robot robot' : Robot K} {chunk : CartesianChunk K}
    {raiseOnStop record : Bool} {calls : List (Call (effects K))}
    {out : Except Exc (ExecutionResult K)}
    (ran : Trace (executeCartesianChunk chunk raiseOnStop record robot) calls
      (.done (out, robot'))) : Accounted robot chunk (chunkEvents calls) out := by
  have whole : wp (watching K) (executeCartesianChunk chunk raiseOnStop record)
      (fun out _ w' => Accounted robot chunk w'.events out) robot {} := by
    unfold executeCartesianChunk cancelIsSet
    rw [wp_bind]
    apply wp_mono (makes_checkLease robot {})
    rintro out robot₁ w₁ ⟨same₁, made, grown, inside, _⟩
    have none₁ : w₁.events = [] := by
      rw [grown, List.prefix_nil.mp inside]
      rfl
    rw [same₁]
    cases out with
    | error e => exact accounted_error none₁ e
    | ok _ =>
        rw [afterStep_ok, wp_bind, wp_op]
        refine ⟨trivial, fun cancelled _ => ?_⟩
        rw [afterStep_ok]
        split
        · exact abortAtEntry_accounted robot chunk raiseOnStop robot _ none₁
        · exact runCartesianChunk_accounted chunk raiseOnStop record robot _ none₁
  exact (Program.wp_sound whole ran
    ((watching K).admitted_of_forall (fun _ _ => trivial) {} calls)).2

theorem watch_grows (calls : List (Call (effects K))) :
    ∀ w : Watch K, w.events <+: (calls.foldl Watch.next w).events := by
  induction calls with
  | nil => exact fun w => List.prefix_rfl
  | cons c rest ih =>
      intro w
      have now : w.events <+: (w.next c).events := by
        unfold Watch.next
        split
        · exact List.prefix_rfl
        · exact List.prefix_append _ _
        · exact List.prefix_rfl
      exact now.trans (ih (w.next c))

/-- Also a run that has not finished has streamed and sent what a play of the gate does. -/
theorem executeCartesianChunk_plays {robot : Robot K} {chunk : CartesianChunk K}
    {raiseOnStop record : Bool} {calls : List (Call (effects K))}
    {q : Program (effects K) (Except Exc (ExecutionResult K) × Robot K)}
    (ran : Trace (executeCartesianChunk chunk raiseOnStop record robot) calls q) :
    chunkEvents calls = [] ∨ ∃ play : ChunkPlay K, play.Of robot chunk (chunkEvents calls) ∧
      ∀ result robot', q = .done (.ok result, robot') →
        play.Returns robot (chunkEvents calls) result := by
  obtain ⟨later, ⟨out, robot'⟩, rest⟩ := q.exists_finished op_answered
  have grown : chunkEvents calls <+: chunkEvents (calls ++ later) := by
    unfold chunkEvents
    rw [List.foldl_append]
    exact watch_grows later _
  rcases executeCartesianChunk_accounted (ran.append rest) with ⟨none, _⟩ | ⟨play, of, returns⟩
  · rw [none] at grown
    exact Or.inl (List.prefix_nil.mp grown)
  · refine Or.inr ⟨play, ⟨of.resolved, of.fresh, of.follows, of.filtered, of.ends,
      grown.trans of.inside⟩, ?_⟩
    intro result robot'' ended
    rw [ended] at rest
    obtain ⟨nothing, same⟩ := rest.of_done
    rw [nothing, List.append_nil] at returns
    exact returns result (congrArg Prod.fst same)

end Watching

end FlexivControl
