/-
The Cartesian executor on the simulator.

A tick on the simulator is refused by one of the gates or streams what the filter made,
which the simulator takes because the executor has seen to its mode. What the report of a
run says is then a matter of how the simulator's pose follows what is streamed.
-/

import FlexivControl.Backend.Fake
import FlexivControl.Robot.GatedRuns

namespace FlexivControl

open Script

section Ticks

variable {K : Type} [Scalar K] {heard : Bool → Prop}

abbrev onAnyFake (heard : Bool → Prop) : Monitor (effects K) (FakeBackend K) :=
  onFake heard fun _ => True

section Rules

variable {α : Type} {post : Except Exc α → Robot K → FakeBackend K → Prop} {robot : Robot K}
  {g : FakeBackend K}

theorem wp_fake_reads {f : RobotState K → RobotM K α}
    (rest : ∀ now, wp (onAnyFake heard) (f (g.readState now)) post robot g) :
    wp (onAnyFake heard) (do let state ← getState; f state) post robot g := by
  unfold getState
  simp only [wp_bind, wp_readState]
  refine ⟨trivial, ?_⟩
  rintro answer ⟨now, same⟩
  subst same
  exact ⟨trivial, fun _ _ => rest now⟩

theorem wp_fake_commands {call : BackendCall K} (taken : (g.serve call).1 = .ok ())
    {f : Unit → RobotM K α} (rest : wp (onAnyFake heard) (f ()) post robot (g.serve call).2) :
    wp (onAnyFake heard) (do let u ← backend call; f u) post robot g := by
  rw [wp_bind, wp_backend]
  refine ⟨trivial, fun answer same => ?_⟩
  have accepted : answer = .ok () := same.trans taken
  rw [accepted, afterStep_ok]
  exact rest

theorem wp_fake_faults {f : Bool → RobotM K α}
    (rest : wp (onAnyFake heard) (f g.fault) post robot g) :
    wp (onAnyFake heard) (do let faulted ← inFault; f faulted) post robot g := by
  rw [wp_bind, wp_inFault]
  refine ⟨trivial, fun answer same => ?_⟩
  have known : answer = .ok g.fault := same
  rw [known, afterStep_ok]
  exact rest

theorem wp_fake_hears (site : CancelSite) {f : Bool → RobotM K α}
    (rest : ∀ set, heard set → wp (onAnyFake heard) (f set) post robot g) :
    wp (onAnyFake heard) (do let set ← cancelIsSet site; f set) post robot g := by
  unfold cancelIsSet
  rw [wp_bind, wp_op]
  exact ⟨trivial, fun set admitted => rest set admitted⟩

theorem wp_fake_quiet {op : Op K} (idle : ∀ answer, g.after ⟨op, answer⟩ = g)
    {f : Op.Resp op → RobotM K α}
    (rest : ∀ answer, wp (onAnyFake heard) (f answer) post robot g) :
    wp (onAnyFake heard) (do let answer ← perform op; f answer) post robot g := by
  rw [wp_bind, wp_op]
  refine ⟨trivial, fun answer _ => ?_⟩
  have same : (onAnyFake heard).observe g ⟨op, answer⟩ = g := idle answer
  rw [afterStep_ok, same]
  exact rest answer

theorem wp_fake_emits (step : GripStep K) :
    wp (onAnyFake heard) step.emit (fun out robot' g' => robot' = robot ∧ g.Same g' ∧
      out = .ok step.run) robot g := by
  unfold GripStep.emit
  have sending (sends : List (GripSend K)) : ∀ g : FakeBackend K,
      wp (onAnyFake heard) (sends.forM fun send => backend (.moveGripper send.cmd))
        (fun out robot' g' => robot' = robot ∧ g.Same g' ∧ out = .ok ⟨⟩) robot g := by
    induction sends with
    | nil => exact fun g => ⟨rfl, .refl g, rfl⟩
    | cons send rest ih =>
        intro g
        rw [List.forM_eq_forM, List.forM_cons]
        apply wp_fake_commands (rfl : (g.serve (.moveGripper send.cmd)).1 = .ok ())
        have first : g.Same (g.serve (.moveGripper send.cmd)).2 := ⟨⟨rfl, rfl, rfl, rfl⟩, rfl⟩
        apply wp_mono (ih (g.serve (.moveGripper send.cmd)).2)
        rintro out robot' g' ⟨sameRobot, still, ended⟩
        exact ⟨sameRobot, first.trans still, ended⟩
  rw [wp_bind]
  apply wp_mono (sending step.sends g)
  rintro out robot' g' ⟨sameRobot, still, ended⟩
  rw [ended, afterStep_ok]
  exact ⟨sameRobot, still, rfl⟩

end Rules

theorem afterStream_onFake (chunk : CartesianChunk K) (t0 : K) (t : StreamedTick K)
    (run : ChunkRun K) (robot : Robot K) (g : FakeBackend K) :
    wp (onAnyFake heard) (afterStream chunk t0 t.sp t.state t.pose (run.entering t))
      (fun out robot' g' => robot' = robot ∧ g.Same g' ∧ ∃ rows,
        out = .ok (run.afterTick chunk robot.controlHz robot.dt { t with rows := rows }))
      robot g := by
  unfold afterStream
  rw [wp_bind, wp_get, afterStep_ok, wp_bind, firePending_emits]
  apply wp_mono (wp_fake_emits (fireStep chunk (run.entering t) t.state))
  rintro out robot' g₁ ⟨sameRobot, still₁, ended⟩
  rw [ended, sameRobot, afterStep_ok, wp_bind, gripperPhase_emits]
  apply wp_mono (wp_fake_emits (gripStep chunk robot.controlHz t.sp _ t.state))
  rintro out robot' g₂ ⟨sameRobot, still₂, ended⟩
  rw [ended, sameRobot, afterStep_ok]
  have both := still₁.trans still₂
  unfold recordRow
  split
  · exact ⟨rfl, both, (handledIn chunk robot.controlHz run t).run.trajectory, rfl⟩
  · rename_i rows _
    unfold perfCounter
    rw [bind_assoc]
    apply wp_fake_quiet fun _ => rfl
    exact fun now => ⟨rfl, both, some (rows ++ [_]), rfl⟩

/-- Why a tick may stop: it heard a stop, the simulator is faulted, the cap is below the zero
wrench, or the filter lets nothing through. -/
def Refused (heard : Bool → Prop) (cap : Wrench K) (sp : CartesianSetpoint K) (f : SafetyFilter K)
    (g : FakeBackend K) : Prop :=
  heard true ∨ g.fault = true ∨ exceeds (fun _ => 0) cap = true ∨
    ∃ now, ∀ pose, ¬ ((f.filterCartesian sp.pose (g.readState now) (some cap)).1.ok = true ∧
      (f.filterCartesian sp.pose (g.readState now) (some cap)).1.pose = some pose)

def FakeTicked (heard : Bool → Prop) (chunk : CartesianChunk K) (cap : Wrench K)
    (sp : CartesianSetpoint K) (run : ChunkRun K) (robot : Robot K) (g : FakeBackend K)
    (out : Except Exc (ChunkRun K × Bool)) (robot' : Robot K) (g' : FakeBackend K) : Prop :=
  (Refused heard cap sp robot.filter g ∧ g.Unmoved g' ∧
      ∃ reason, out = .ok ((run.reach sp).stop reason, false)) ∨
    ∃ t : StreamedTick K, t.sp = sp ∧ (∃ now, t.state = g.readState now) ∧
      t.Passes cap robot.filter robot'.filter ∧ robot.WithFilter robot' ∧
      (g.followed t.pose).Same g' ∧
      out = .ok (run.afterTick chunk robot.controlHz robot.dt t, true)

theorem cartesianTick_onFake (chunk : CartesianChunk K) (cap : Wrench K) (t0 : K)
    (sp : CartesianSetpoint K) (run : ChunkRun K) (robot : Robot K) {g : FakeBackend K}
    (cartesian : g.mode.isCartesian = true) :
    wp (onAnyFake heard) (cartesianTick chunk cap t0 sp run)
      (FakeTicked heard chunk cap sp run robot g) robot g := by
  have halts {robot' : Robot K} (reason : StopReason)
      (why : Refused heard cap sp robot.filter g) :
      wp (onAnyFake heard) (do backend .stop; pure ((run.reach sp).stop reason, false))
        (FakeTicked heard chunk cap sp run robot g) robot' g := by
    apply wp_fake_commands (rfl : (g.serve .stop).1 = .ok ())
    exact Or.inl ⟨why, ⟨rfl, rfl, rfl, rfl⟩, reason, rfl⟩
  unfold cartesianTick
  dsimp only
  apply wp_fake_hears
  intro set hears
  cases set with
  | true =>
      unfold cancelTick
      rw [if_pos rfl, bind_assoc]
      apply wp_fake_quiet fun _ => rfl
      intro _
      exact halts .user (Or.inl hears)
  | false =>
      change wp _ (do let state ← getState; _) _ _ _
      apply wp_fake_reads
      intro now
      apply wp_fake_faults
      cases fault : g.fault with
      | true => exact halts .backendFault (Or.inr (Or.inl fault))
      | false =>
          change wp _ (if exceeds (g.readState now).wrench cap = true then _ else _) _ _ _
          split
          · rename_i heavy
            exact halts .contactWrench (Or.inr (Or.inr (Or.inl heavy)))
          · rename_i light
            rw [wp_bind, wp_filterCartesian, afterStep_ok]
            split
            · rename_i pose ok found
              let sr := (robot.filter.filterCartesian sp.pose (g.readState now) (some cap)).1
              let t : StreamedTick K := ⟨sp, g.readState now, sr, pose, none⟩
              have served := FakeBackend.serve_streamCartesian cartesian pose (chunkWrench chunk)
              apply wp_fake_commands (congrArg Prod.fst served)
              rw [served, wp_bind]
              apply wp_mono (afterStream_onFake chunk t0 t run _ (g.followed pose))
              rintro out robot' g' ⟨sameRobot, still, rows, ended⟩
              rw [ended, sameRobot, afterStep_ok]
              refine Or.inr ⟨{ t with rows := rows }, rfl, ⟨now, rfl⟩, ⟨rfl, ⟨ok, found⟩, ?_⟩, rfl,
                still, rfl⟩
              exact Bool.eq_false_iff.mpr light
            · rename_i refused
              apply halts
              refine Or.inr (Or.inr (Or.inr ⟨now, ?_⟩))
              rintro pose ⟨ok, found⟩
              exact refused pose ok found

/-! ### From the ticks to the report -/

theorem resolvePending_onFake (chunk : CartesianChunk K) (run : ChunkRun K) (robot : Robot K)
    (g : FakeBackend K) :
    wp (onAnyFake heard) (resolvePending chunk run) (fun out robot' g' => robot' = robot ∧
      g.Same g' ∧ ∃ now, out = .ok (finishStep chunk run (g.readState now)).run) robot g := by
  unfold resolvePending finishStep
  rcases run.pendingClose with _ | ⟨cmd, fireAt⟩
  · exact ⟨rfl, .refl g, 0, rfl⟩
  · dsimp only
    split
    · apply wp_fake_reads
      intro now
      rw [tryFireClose_emits]
      apply wp_mono (wp_fake_emits (judgeClose chunk { run with pendingClose := none } cmd
        (g.readState now)))
      rintro out robot' g' ⟨sameRobot, still, ended⟩
      exact ⟨sameRobot, still, now, ended⟩
    · split
      · exact ⟨rfl, .refl g, 0, rfl⟩
      · exact ⟨rfl, .refl g, 0, rfl⟩

theorem restoreWrenchLimit_onFake (relaxed : Bool) (run : ChunkRun K) (robot : Robot K)
    (g : FakeBackend K) :
    wp (onAnyFake heard) (restoreWrenchLimit relaxed run)
      (fun out robot' g' => robot' = robot ∧ g.Same g' ∧ out = .ok run) robot g := by
  unfold restoreWrenchLimit
  split
  · rw [wp_bind, wp_get, afterStep_ok, wp_bind, wp_op]
    refine ⟨trivial, fun answer same => ?_⟩
    have accepted : answer = .ok () := same
    rw [accepted, afterStep_ok]
    exact ⟨rfl, ⟨⟨rfl, rfl, rfl, rfl⟩, rfl⟩, rfl⟩
  · exact ⟨rfl, .refl g, rfl⟩

theorem guardedTicks_onFake {chunk : CartesianChunk K} {cap : Wrench K} {relaxed : Bool} {t0 : K}
    {setpoints : List (CartesianSetpoint K)} {run : ChunkRun K} {robot : Robot K}
    {g : FakeBackend K} {ended : ChunkRun K → FakeBackend K → Prop}
    (ticks : wp (onAnyFake heard) (cartesianTicks chunk cap t0 setpoints run)
      (fun out _ g' => ∃ run', out = .ok run' ∧ ended run' g') robot g) :
    wp (onAnyFake heard) (guardedTicks chunk cap relaxed t0 setpoints run)
      (fun out _ g' => ∃ run' g₁ now, ended run' g₁ ∧ g₁.Same g' ∧
        out = .ok (finishStep chunk run' (g₁.readState now)).run) robot g := by
  unfold guardedTicks
  rw [wp_bind, wp_tryCatch, wp_bind]
  apply wp_mono ticks
  rintro out robot₁ g₁ ⟨run', ended₁, holds⟩
  rw [ended₁, afterStep_ok, wp_bind]
  apply wp_mono (resolvePending_onFake chunk run' robot₁ g₁)
  rintro out robot₂ g₂ ⟨_, still₂, now, ended₂⟩
  rw [ended₂, afterStep_ok, wp_pure, afterStep_ok, afterStep_ok]
  apply wp_mono (restoreWrenchLimit_onFake relaxed _ robot₂ g₂)
  rintro out robot₃ g₃ ⟨_, still₃, ended₃⟩
  exact ⟨run', g₁, now, holds, still₂.trans still₃, ended₃⟩

theorem ensureCartesianStart_onFake (chunk : CartesianChunk K) {result : ExecutionResult K}
    (clean : result.Clean) (robot : Robot K) (g : FakeBackend K) :
    wp (onAnyFake heard) (ensureCartesianStart chunk result) (fun out robot' g' =>
      robot' = robot ∧ g.Unmoved g' ∧ g'.mode.isCartesian = true ∧
      ∃ now result', out = .ok (g'.readState now, result') ∧ result'.Clean) robot g := by
  unfold ensureCartesianStart
  apply wp_fake_reads
  intro now
  change wp _ (if g.mode.isCartesian = true then _ else _) _ _ _
  split
  · rename_i cartesian
    exact ⟨rfl, (FakeBackend.Same.refl g).toUnmoved, cartesian, now, result, rfl, clean⟩
  · unfold startCartesianImpedance
    rw [wp_bind, wp_bind, wp_get, afterStep_ok, wp_backend]
    refine ⟨trivial, fun answer same => ?_⟩
    have accepted : answer = .ok () := same
    rw [accepted, afterStep_ok]
    apply wp_fake_reads
    intro later
    exact ⟨rfl, ⟨rfl, rfl, rfl, rfl⟩, rfl, later, _, rfl, clean.note (by decide) _⟩

/-- The report of a chunk aborted at its entry measures nothing. -/
structure ExecutionResult.Unmeasured (result : ExecutionResult K) : Prop where
  error : result.pathTrackingError = 0
  speed : result.maxTcpSpeed = 0
  wrench : result.maxWrench = 0
  unrecorded : "close_aborted" ∉ result.log.map Prod.fst

/-- What a blocking chunk on the simulator comes to. In the last case `ended` holds of the
locals and the simulator when the ticks are over. -/
inductive FakeExecuted (heard : Bool → Prop) (chunk : CartesianChunk K) (raiseOnStop : Bool)
    (robot : Robot K) (g : FakeBackend K)
    (ended : CartesianChunk K → ChunkRun K → FakeBackend K → Prop) :
    Except Exc (ExecutionResult K) → FakeBackend K → Prop where
  | mismatched (e : Exc) (named : chunk.safetyProfile ≠ "")
      (other : chunk.safetyProfile ≠ robot.profile.name) (g' : FakeBackend K) :
      FakeExecuted heard chunk raiseOnStop robot g ended (.error e) g'
  | unresolved (e : Exc) (why : chunk.forExecution g.pose = .error e) (g' : FakeBackend K) :
      FakeExecuted heard chunk raiseOnStop robot g ended (.error e) g'
  | cancelled (hears : heard true) (out : Except Exc (ExecutionResult K)) (g' : FakeBackend K)
      (blank : ∀ result, out = .ok result → result.Unmeasured) :
      FakeExecuted heard chunk raiseOnStop robot g ended out g'
  | ran {executed : CartesianChunk K} {run : ChunkRun K} {g₁ g' : FakeBackend K}
      (made : chunk.forExecution g.pose = .ok executed) (holds : ended executed run g₁)
      (still : g₁.Same g') (start : RobotState K) (now later : K) (report : ExecutionResult K)
      (reported : report = (finishStep executed run (g₁.readState now)).run.report start
        (g'.readState later)) (out : Except Exc (ExecutionResult K))
      (returned : out = .ok report ∨
        raiseOnStop = true ∧ report.success = false ∧ ∃ e, out = .error e) :
      FakeExecuted heard chunk raiseOnStop robot g ended out g'

theorem returnResult_onFake (result : ExecutionResult K) (raiseOnStop : Bool) (robot : Robot K)
    (g : FakeBackend K) :
    wp (onAnyFake heard) (returnResult result raiseOnStop) (fun out _ g' => g' = g ∧
      (out = .ok result ∨ raiseOnStop = true ∧ result.success = false ∧ ∃ e, out = .error e))
      robot g := by
  unfold returnResult
  rw [wp_bind, wp_op]
  refine ⟨trivial, fun _ _ => ?_⟩
  rw [afterStep_ok]
  split
  · rename_i raises
    exact ⟨rfl, Or.inr ⟨raises.1, Bool.eq_false_iff.mpr raises.2, _, rfl⟩⟩
  · exact ⟨rfl, Or.inl rfl⟩

def TicksEnd (heard : Bool → Prop) (chunk : CartesianChunk K) (robot : Robot K) (g : FakeBackend K)
    (ended : CartesianChunk K → ChunkRun K → FakeBackend K → Prop) : Prop :=
  ∀ (executed : CartesianChunk K) (result : ExecutionResult K)
    (trajectory : Option (List (List K))) (t0 : K) (g₀ : FakeBackend K) (start : RobotState K),
    chunk.forExecution g.pose = .ok executed → result.Clean → g.Unmoved g₀ →
    g₀.mode.isCartesian = true → start.tcpPose = g.pose →
    wp (onAnyFake heard) (cartesianTicks executed (effectiveWrenchCap robot.profile chunk) t0
        (executorInterpolator executed g.pose robot.profile robot.controlHz).setpoints
        { result := result, prevPos := g.pose.pos, trajectory := trajectory })
      (fun out _ g' => ∃ run, out = .ok run ∧ ended executed run g')
      { robot with filter := robot.filter.reset (some start) } g₀

theorem runCartesianChunk_onFake {chunk : CartesianChunk K} {robot : Robot K} {g : FakeBackend K}
    {ended : CartesianChunk K → ChunkRun K → FakeBackend K → Prop}
    (ticks : TicksEnd heard chunk robot g ended) (raiseOnStop record : Bool) :
    wp (onAnyFake heard) (runCartesianChunk chunk raiseOnStop record)
      (fun out _ g' => FakeExecuted heard chunk raiseOnStop robot g ended out g') robot g := by
  unfold runCartesianChunk verifyChunkProfile
  rw [wp_bind, wp_bind, wp_get, afterStep_ok]
  dsimp only
  split
  · rename_i mismatch
    exact .mismatched _ mismatch.1 mismatch.2 g
  have blank : ({} : ExecutionResult K).Clean := ⟨rfl, rfl, by exact List.not_mem_nil⟩
  rw [wp_pure, afterStep_ok, wp_bind]
  apply wp_mono (ensureCartesianStart_onFake chunk
    ((blank.note (by decide) _).note (by decide) _) robot g)
  rintro out robot' g₀ ⟨sameRobot, still, cartesian, now, result, ended₀, clean⟩
  have here : (g₀.readState now).tcpPose = g.pose := still.pose
  rw [ended₀, sameRobot, afterStep_ok]
  dsimp only
  rw [wp_bind, wp_resetFilter, afterStep_ok, wp_bind, wp_attempt, here]
  cases made : chunk.forExecution g.pose with
  | error e => exact .unresolved e made g₀
  | ok executed =>
      rw [afterStep_ok, wp_bind, wp_get, afterStep_ok]
      dsimp only
      rw [forExecution_wrenchCap made]
      have armed (relaxed : Bool) {result : ExecutionResult K} (clean : result.Clean) :
          wp (onAnyFake heard) (do
            armWrenchLimit relaxed (effectiveWrenchCap robot.profile chunk)
            let t0 ← perfCounter
            let run ← guardedTicks executed (effectiveWrenchCap robot.profile chunk) relaxed t0
              (executorInterpolator executed g.pose robot.profile robot.controlHz).setpoints
              { result := result, prevPos := g.pose.pos
                trajectory := if record then some [] else none }
            let final ← getState
            returnResult (run.report (g₀.readState now) final) raiseOnStop)
            (fun out _ g' => FakeExecuted heard chunk raiseOnStop robot g ended out g')
            { robot with filter := robot.filter.reset (some (g₀.readState now)) } g₀ := by
        have played {g₁ : FakeBackend K} (same : g₀.Same g₁) :
            wp (onAnyFake heard) (do
              let t0 ← perfCounter
              let run ← guardedTicks executed (effectiveWrenchCap robot.profile chunk) relaxed t0
                (executorInterpolator executed g.pose robot.profile robot.controlHz).setpoints
                { result := result, prevPos := g.pose.pos
                  trajectory := if record then some [] else none }
              let final ← getState
              returnResult (run.report (g₀.readState now) final) raiseOnStop)
              (fun out _ g' => FakeExecuted heard chunk raiseOnStop robot g ended out g')
              { robot with filter := robot.filter.reset (some (g₀.readState now)) } g₁ := by
          unfold perfCounter
          apply wp_fake_quiet fun _ => rfl
          intro t0
          have cartesian₁ : g₁.mode.isCartesian = true := by
            rw [same.mode]
            exact cartesian
          rw [wp_bind]
          apply wp_mono (guardedTicks_onFake (ticks executed result _ t0 g₁ (g₀.readState now) made
            clean (still.trans same.toUnmoved) cartesian₁ here))
          rintro out robot₂ g₂ ⟨run, g₃, judged, holds, kept, ended₂⟩
          rw [ended₂, afterStep_ok]
          apply wp_fake_reads
          intro later
          apply wp_mono (returnResult_onFake _ raiseOnStop robot₂ g₂)
          rintro out robot₃ g₄ ⟨sameFake, returned⟩
          rw [sameFake]
          exact .ran made holds kept (g₀.readState now) judged later _ rfl out returned
        unfold armWrenchLimit
        split
        · apply wp_fake_commands rfl
          exact played ⟨⟨rfl, rfl, rfl, rfl⟩, rfl⟩
        · exact played (.refl g₀)
      cases grantedAllowance robot.profile executed with
      | none => exact armed false ((clean.note (by decide) _).note (by decide) _)
      | some allow =>
          exact armed true (((clean.note (by decide) _).note (by decide) _).note (by decide) _)

theorem executeCartesianChunk_onFake {chunk : CartesianChunk K} {robot : Robot K}
    {g : FakeBackend K} {ended : CartesianChunk K → ChunkRun K → FakeBackend K → Prop}
    (ticks : TicksEnd heard chunk robot g ended) (raiseOnStop record : Bool) :
    wp (onAnyFake heard) (executeCartesianChunk chunk raiseOnStop record)
      (fun out _ g' => FakeExecuted heard chunk raiseOnStop robot g ended out g') robot g := by
  have leased : wp (onAnyFake heard) (do
      if ← cancelIsSet .entry then abortAtEntry raiseOnStop
      else runCartesianChunk chunk raiseOnStop record)
      (fun out _ g' => FakeExecuted heard chunk raiseOnStop robot g ended out g') robot g := by
    apply wp_fake_hears
    intro set hears
    cases set with
    | false => exact runCartesianChunk_onFake ticks raiseOnStop record
    | true =>
        change wp _ (abortAtEntry raiseOnStop) _ _ _
        unfold abortAtEntry
        apply wp_fake_quiet fun _ => rfl
        intro _
        apply wp_fake_reads
        intro now
        apply wp_mono (returnResult_onFake _ raiseOnStop robot g)
        rintro out robot' g' ⟨_, returned⟩
        refine .cancelled hears out g' ?_
        intro result same
        rcases returned with ok | ⟨_, _, e, error⟩
        · rw [ok] at same
          cases same
          refine ⟨rfl, rfl, rfl, ?_⟩
          change _ ∉ (((({} : ExecutionResult K).stop .user).note _ _).log.map Prod.fst)
          rw [mem_note]
          rintro (other | recorded)
          · exact absurd other (by decide)
          · exact List.not_mem_nil recorded
        · rw [error] at same
          cases same
  unfold executeCartesianChunk checkLease
  rw [wp_bind, wp_bind, wp_op]
  refine ⟨trivial, fun owner _ => ?_⟩
  rw [afterStep_ok]
  cases owner with
  | none => exact ⟨trivial, fun _ _ => leased⟩
  | some owner => exact leased

theorem answered_of_calm (calls : List (Call (effects K))) :
    ∀ {g : FakeBackend K}, (onAnyFake fun set => set = false).Admitted g calls →
      g.Answered calls ∧ Uncancelled calls := by
  induction calls with
  | nil =>
      intro g _
      refine ⟨trivial, ?_⟩
      intro site set member
      cases member
  | cons c rest ih =>
      intro g admitted
      obtain ⟨later, calm⟩ := ih admitted.2
      have here := admitted.1
      obtain ⟨op, answer⟩ := c
      refine ⟨⟨?_, later⟩, ?_⟩
      · cases op with
        | cancelIsSet site => trivial
        | _ => exact here
      · intro site set member
        rcases List.mem_cons.mp member with first | further
        · cases first
          exact here
        · exact calm site set further

theorem exists_fake_run {α : Type} (g : FakeBackend K) (p : Program (effects K) α) :
    ∃ calls a, Trace p calls (.done a) ∧ g.Answered calls ∧ Uncancelled calls := by
  have answers : ∀ (g : FakeBackend K) (op : Op K),
      ∃ r, (onAnyFake fun set => set = false).admits g ⟨op, r⟩ := by
    intro g op
    obtain ⟨r⟩ := op_answered op
    cases op with
    | readState => exact ⟨.ok (g.readState 0), 0, rfl⟩
    | inFault => exact ⟨.ok g.fault, rfl⟩
    | write call => exact ⟨(g.serve call).1, rfl⟩
    | cancelIsSet site => exact ⟨false, rfl⟩
    | _ => exact ⟨r, trivial⟩
  obtain ⟨calls, a, ran, admitted⟩ := p.exists_admitted answers g
  exact ⟨calls, a, ran, answered_of_calm calls admitted⟩

end Ticks

end FlexivControl
