/-
How fast the teleop loop can make the arm go.

The loop keeps to its rate, and what a device at full deflection asks for in one tick is the
speed it is scaled to times the tick. So the commands of a run add up to no more than that
speed over the time the loop has run, and one tick more.
-/

import FlexivControl.Teleop.Drive

namespace FlexivControl

open Script

/-- The clock of the loop, which is to keep its servo calls to the rate. -/
def teleopClock {K : Type} [Scalar K] : Timepiece (teleopEffects K) K where
  reads c := match c with
    | ⟨.perfCounter, .ok t⟩ => some t
    | _ => none
  waits c := match c with
    | ⟨.sleep seconds, .ok _⟩ => some seconds
    | _ => none
  acts op := op.served.isSome

def TeleopOp.timeless {K : Type} [Scalar K] : TeleopOp K → Bool
  | .servoCartesianDelta _ | .perfCounter | .sleep _ => false
  | .openSource | .closeSource | .read | .acquireLease _ | .startCartesianImpedance | .getState
  | .time => true

theorem TeleopOp.timeless_reads {c : Call (teleopEffects ℝ)} (timeless : c.op.timeless = true) :
    teleopClock.reads c = none ∧ teleopClock.waits c = none ∧ teleopClock.acts c.op = false := by
  obtain ⟨op, answer⟩ := c
  cases op <;> first | exact ⟨rfl, rfl, rfl⟩ | cases timeless

section Rate

variable {settings : TeleopSettings ℝ} {calls : List (Call (teleopEffects ℝ))}
  {teleop : SpaceMouseTeleop ℝ} {begun nextTick now : ℝ} {ticks : Nat}

noncomputable abbrev teleopRate (settings : TeleopSettings ℝ) :
    Monitor (teleopEffects ℝ) (List (Call (teleopEffects ℝ))) :=
  teleopClock.paced settings.dt

abbrev Scheduled (settings : TeleopSettings ℝ) (calls : List (Call (teleopEffects ℝ)))
    (begun nextTick now : ℝ) (ticks acted : Nat) : Prop :=
  teleopClock.OnSchedule settings.dt calls begun nextTick now ticks acted

theorem timeless_ask {op : TeleopOp ℝ} (timeless : op.timeless = true) :
    Uses (S := teleopEffects ℝ) (fun op => op.timeless = true) (TeleopM.ask op) :=
  uses_request timeless

theorem wp_timeless {α : Type} {x : TeleopM ℝ α} {acted : Nat}
    (used : Uses (S := teleopEffects ℝ) (fun op => op.timeless = true) x)
    (schedule : Scheduled settings calls begun nextTick now ticks acted) :
    wp (teleopRate settings) x
      (fun _ _ calls' => Scheduled settings calls' begun nextTick now ticks acted)
      teleop calls := by
  refine used.wp ?_ ?_ schedule
  · intro calls op timeless _ acts
    have idle := (TeleopOp.timeless_reads (c := ⟨op, .error ⟨.runtimeError, ""⟩⟩) timeless).2.2
    cases acts.symm.trans idle
  · intro calls op answer timeless schedule
    obtain ⟨unread, unwaited, idle⟩ := TeleopOp.timeless_reads (c := ⟨op, answer⟩) timeless
    exact schedule.quiet unread unwaited idle

theorem wp_pace
    (schedule : Scheduled settings calls begun nextTick now ticks (ticks + 1)) :
    wp (teleopRate settings) (settings.pace nextTick) (fun out _ calls' =>
      ∀ nextTick', out = .ok nextTick' → ∃ now',
        Scheduled settings calls' begun nextTick' now' (ticks + 1) (ticks + 1)) teleop calls := by
  unfold TeleopSettings.pace
  rw [wp_bind, wp_request]
  refine ⟨fun acts => (by cases acts), ?_⟩
  intro answer admitted
  cases answer with
  | error e => exact fun nextTick' impossible => by cases impossible
  | ok t =>
      have read := schedule.read (c := (⟨.perfCounter, .ok t⟩ : Call (teleopEffects ℝ))) rfl
        (admitted t rfl now schedule.time) rfl
      rw [afterStep_ok]
      dsimp only
      split
      · rename_i early
        rw [wp_bind, wp_request]
        refine ⟨fun acts => (by cases acts), ?_⟩
        intro slept _
        cases slept with
        | error e => exact fun nextTick' impossible => by cases impossible
        | ok _ =>
            intro nextTick' same
            cases same
            exact ⟨_, read.wait rfl rfl rfl early.le⟩
      · rename_i late
        rw [wp_request]
        refine ⟨fun acts => (by cases acts), ?_⟩
        intro answer admitted
        cases answer with
        | error e => exact fun nextTick' impossible => by cases impossible
        | ok t' =>
            intro nextTick' same
            cases same
            have later : t ≤ t' := admitted t' rfl t read.time
            have again :=
              read.read (c := (⟨.perfCounter, .ok t'⟩ : Call (teleopEffects ℝ))) rfl later rfl
            refine ⟨t', again.next ?_ le_rfl⟩
            linarith

theorem wp_answer_paced (positive : 0 ≤ settings.dt) (st : SpaceMouseState ℝ)
    (grip : Option (GripperCommand ℝ))
    (schedule : Scheduled settings calls begun nextTick now ticks ticks) :
    wp (teleopRate settings) (settings.answer st grip)
      (fun _ _ calls' => Scheduled settings calls' begun nextTick now ticks (ticks + 1)) teleop
      calls := by
  have resting : Scheduled settings calls begun nextTick now ticks (ticks + 1) :=
    { schedule with counted := schedule.counted.trans (Nat.le_succ _) }
  have asks (call : TeleopServo ℝ) : wp (teleopRate settings) (do
        let _ ← TeleopM.ask (.servoCartesianDelta call)
        pure ())
      (fun _ _ calls' => Scheduled settings calls' begun nextTick now ticks (ticks + 1)) teleop
      calls := by
    rw [wp_bind, wp_request]
    refine ⟨fun _ => schedule.onPace positive le_rfl, ?_⟩
    intro answer _
    have acted := schedule.passing
      (c := (⟨.servoCartesianDelta call, answer⟩ : Call (teleopEffects ℝ))) rfl rfl
    cases answer with
    | error e => exact acted
    | ok result => exact acted
  unfold TeleopSettings.answer
  rw [wp_bind, wp_get, afterStep_ok]
  split
  · exact asks _
  · split
    · exact asks _
    · exact resting

theorem timeless_gripperFromButtons (st : SpaceMouseState ℝ) :
    Uses (S := teleopEffects ℝ) (fun op => op.timeless = true)
      (TeleopSettings.gripperFromButtons st) := by
  apply uses_get.bind
  intro teleop
  have asked : Uses (S := teleopEffects ℝ) (fun op => op.timeless = true)
      (TeleopSettings.widthFor teleop st) := by
    unfold TeleopSettings.widthFor
    split
    · exact ((timeless_ask rfl).bind fun _ => uses_pure _).tryCatch fun _ => uses_pure _
    · exact uses_pure _
  exact asked.bind fun width => (uses_set _).bind fun _ => uses_pure _

theorem timeless_ended (duration : Option ℝ) (maxTicks : Option Int) (tStart : ℝ) (ticks : Nat) :
    Uses (S := teleopEffects ℝ) (fun op => op.timeless = true)
      (TeleopSettings.ended duration maxTicks tStart ticks) := by
  have late : Uses (S := teleopEffects ℝ) (fun op => op.timeless = true)
      (TeleopSettings.expired duration tStart) := by
    cases duration with
    | none => exact uses_pure _
    | some duration => exact (timeless_ask rfl).bind fun _ => uses_pure _
  exact late.bind fun _ => uses_pure _

theorem wp_loop_paced (positive : 0 ≤ settings.dt) (duration : Option ℝ) (maxTicks : Option Int)
    (tStart : ℝ) (rounds : Nat) :
    ∀ {teleop : SpaceMouseTeleop ℝ} {calls : List (Call (teleopEffects ℝ))} {nextTick now : ℝ}
      {ticks : Nat}, Scheduled settings calls begun nextTick now ticks ticks →
      wp (teleopRate settings) (settings.loop duration maxTicks tStart rounds nextTick ticks)
        (fun _ _ _ => True) teleop calls := by
  induction rounds with
  | zero => exact fun _ => trivial
  | succ rounds ih =>
      intro teleop calls nextTick now ticks schedule
      unfold TeleopSettings.loop
      rw [wp_bind]
      apply wp_mono (wp_timeless (timeless_ended duration maxTicks tStart ticks) schedule)
      intro stops teleop₁ calls₁ schedule₁
      cases stops with
      | error e => trivial
      | ok stops =>
          rw [afterStep_ok]
          split
          · trivial
          rw [wp_bind]
          apply wp_mono (wp_timeless (timeless_ask rfl) schedule₁)
          intro st teleop₂ calls₂ schedule₂
          cases st with
          | error e => trivial
          | ok st =>
              rw [afterStep_ok, wp_bind]
              apply wp_mono (wp_timeless (timeless_gripperFromButtons st) schedule₂)
              intro grip teleop₃ calls₃ schedule₃
              cases grip with
              | error e => trivial
              | ok grip =>
                  rw [afterStep_ok, wp_bind]
                  apply wp_mono (wp_answer_paced positive st grip schedule₃)
                  intro answered teleop₄ calls₄ schedule₄
                  cases answered with
                  | error e => trivial
                  | ok _ =>
                      rw [afterStep_ok, wp_bind]
                      apply wp_mono (wp_pace schedule₄)
                      intro deadline teleop₅ calls₅ later
                      cases deadline with
                      | error e => trivial
                      | ok deadline =>
                          obtain ⟨now', schedule₅⟩ := later deadline rfl
                          exact ih schedule₅

structure Untimed (calls : List (Call (teleopEffects ℝ))) : Prop where
  unread : calls.filterMap teleopClock.reads = []
  unacted : teleopClock.actions calls = 0

theorem wp_untimed {α : Type} {x : TeleopM ℝ α}
    (used : Uses (S := teleopEffects ℝ) (fun op => op.timeless = true) x)
    (untimed : Untimed calls) :
    wp (teleopRate settings) x (fun _ _ calls' => Untimed calls') teleop calls := by
  refine used.wp ?_ ?_ untimed
  · intro calls op timeless _ acts
    have idle := (TeleopOp.timeless_reads (c := ⟨op, .error ⟨.runtimeError, ""⟩⟩) timeless).2.2
    cases acts.symm.trans idle
  · intro calls op answer timeless untimed
    obtain ⟨unread, _, idle⟩ := TeleopOp.timeless_reads (c := ⟨op, answer⟩) timeless
    constructor
    · change (calls ++ [(⟨op, answer⟩ : Call (teleopEffects ℝ))]).filterMap teleopClock.reads = []
      rw [List.filterMap_append, untimed.unread, List.nil_append, List.filterMap_cons_none unread]
      rfl
    · change teleopClock.actions (calls ++ [(⟨op, answer⟩ : Call (teleopEffects ℝ))]) = 0
      rw [Timepiece.actions_snoc, untimed.unacted, idle]
      rfl

theorem wp_ready : wp (teleopRate settings) settings.ready (fun out _ calls => ∀ start,
    out = .ok start → Scheduled settings calls start.2 start.2 start.2 0 0) teleop [] := by
  have raised (e : Exc) (calls : List (Call (teleopEffects ℝ))) : ∀ start : ℝ × ℝ,
      (.error e : Except Exc (ℝ × ℝ)) = .ok start →
        Scheduled settings calls start.2 start.2 start.2 0 0 :=
    fun start impossible => by cases impossible
  have leased : Uses (S := teleopEffects ℝ) (fun op => op.timeless = true) settings.lease := by
    apply (timeless_ask rfl).tryCatch
    intro e
    split
    · exact timeless_ask rfl
    · exact uses_throw _
  unfold TeleopSettings.ready
  rw [wp_bind]
  apply wp_mono (wp_untimed (timeless_ask rfl) ⟨rfl, rfl⟩)
  intro opened _ calls₁ untimed₁
  cases opened with
  | error e => exact raised e calls₁
  | ok _ =>
  rw [afterStep_ok, wp_bind]
  apply wp_mono (wp_untimed leased untimed₁)
  intro held _ calls₂ untimed₂
  cases held with
  | error e => exact raised e calls₂
  | ok _ =>
  rw [afterStep_ok, wp_bind]
  apply wp_mono (wp_untimed (timeless_ask rfl) untimed₂)
  intro started _ calls₃ untimed₃
  cases started with
  | error e => exact raised e calls₃
  | ok _ =>
  rw [afterStep_ok, wp_bind]
  apply wp_mono (wp_untimed (timeless_ask rfl) untimed₃)
  intro tStart _ calls₄ untimed₄
  cases tStart with
  | error e => exact raised e calls₄
  | ok tStart =>
  rw [afterStep_ok, wp_bind, wp_request]
  refine ⟨fun acts => (by cases acts), ?_⟩
  intro answer _
  cases answer with
  | error e => exact raised e _
  | ok t =>
      intro start same
      cases same
      exact Timepiece.onSchedule_first (c := (⟨.perfCounter, .ok t⟩ : Call (teleopEffects ℝ)))
        untimed₄.unread untimed₄.unacted rfl rfl

theorem wp_run_paced (positive : 0 ≤ settings.dt) (duration : Option ℝ) (maxTicks : Option Int)
    (rounds : Nat) : wp (teleopRate settings) (settings.run duration maxTicks rounds)
      (fun _ _ _ => True) teleop [] := by
  have closes {α : Type} {calls : List (Call (teleopEffects ℝ))} {teleop : SpaceMouseTeleop ℝ}
      {f : Unit → TeleopM ℝ α} {post : Except Exc α → SpaceMouseTeleop ℝ →
        List (Call (teleopEffects ℝ)) → Prop}
      (ends : ∀ calls, wp (teleopRate settings) (f ()) post teleop calls)
      (raised : ∀ e calls, post (.error e) teleop calls) : wp (teleopRate settings) (do
          TeleopM.ask .closeSource
          f ()) post teleop calls := by
    rw [wp_bind, wp_request]
    refine ⟨fun acts => (by cases acts), ?_⟩
    intro answer _
    cases answer with
    | error e => exact raised e _
    | ok _ => exact ends _
  unfold TeleopSettings.run
  rw [wp_bind]
  apply wp_mono wp_ready
  intro start teleop₁ calls₁ scheduled
  cases start with
  | error e => trivial
  | ok start =>
      rw [afterStep_ok, wp_bind, wp_tryCatch]
      apply wp_mono (wp_loop_paced positive duration maxTicks start.1 rounds (scheduled start rfl))
      intro out teleop₂ calls₂ _
      cases out with
      | error e => exact closes (f := fun _ => throw e) (fun _ => trivial) fun _ _ => trivial
      | ok out =>
          rw [afterStep_ok, afterStep_ok]
          split
          · trivial
          · exact closes (f := fun _ => pure out) (fun _ => trivial) fun _ _ => trivial

/-! ### How much one command and all of them ask for -/

/-- A reading in `[-1, 1]` on every axis. -/
def SpaceMouseState.Normal (st : SpaceMouseState ℝ) : Prop :=
  ∀ axis, |axisValue st.translation axis| ≤ 1 ∧ |axisValue st.rotation axis| ≤ 1

/-- The signs only turn the axes round. -/
structure TeleopSettings.Calibrated (settings : TeleopSettings ℝ) : Prop where
  publishing : 0 < settings.publishHz
  posScale : 0 ≤ settings.posScale
  rotScale : 0 ≤ settings.rotScale
  linearSigns : ∀ axis, |axisValue settings.linearSigns axis| ≤ 1
  angularSigns : ∀ axis, |axisValue settings.angularSigns axis| ≤ 1

theorem TeleopSettings.Calibrated.positive (calibrated : settings.Calibrated) : 0 ≤ settings.dt :=
  (one_div_pos.mpr calibrated.publishing).le

theorem abs_clear_le (deadband x : ℝ) : |SpaceMouseTeleop.clear deadband x| ≤ |x| := by
  unfold SpaceMouseTeleop.clear
  split
  · rw [abs_zero]
    exact abs_nonneg x
  · exact le_rfl

theorem abs_delta_le {v signs : Vec3 ℝ} {scale dt : ℝ} {axis : Axis}
    (normal : |axisValue v axis| ≤ 1) (signed : |axisValue signs axis| ≤ 1) (unsigned : 0 ≤ scale)
    (positive : 0 ≤ dt) :
    |axisValue (TeleopSettings.signed (teleop.applyDeadband v) signs * scale * dt) axis| ≤
      scale * dt := by
  have product :
      axisValue (TeleopSettings.signed (teleop.applyDeadband v) signs * scale * dt) axis =
      SpaceMouseTeleop.clear teleop.deadband (axisValue v axis) * axisValue signs axis *
        (scale * dt) := by
    cases axis <;> exact mul_assoc _ scale dt
  have small : |SpaceMouseTeleop.clear teleop.deadband (axisValue v axis) * axisValue signs axis| ≤
      1 := by
    rw [abs_mul]
    exact mul_le_one₀ ((abs_clear_le _ _).trans normal) (abs_nonneg _) signed
  rw [product, abs_mul, abs_of_nonneg (mul_nonneg unsigned positive)]
  exact mul_le_of_le_one_left (mul_nonneg unsigned positive) small

theorem Heeds.bounded (calibrated : settings.Calibrated) {before : List (Call (teleopEffects ℝ))}
    {earlier : List (SpaceMouseState ℝ)} {st : SpaceMouseState ℝ} {call : TeleopServo ℝ}
    (heeds : Heeds settings teleop before earlier st call) (normal : st.Normal) (axis : Axis) :
    |axisValue call.translation axis| ≤ settings.posScale * settings.dt ∧
      |axisValue call.rotation axis| ≤ settings.rotScale * settings.dt := by
  have moves := heeds.moves
  have positive := calibrated.positive
  split at moves
  · rw [TeleopSettings.toDelta, Prod.mk.injEq] at moves
    rw [moves.1, moves.2]
    exact ⟨abs_delta_le (normal axis).1 (calibrated.linearSigns axis) calibrated.posScale positive,
      abs_delta_le (normal axis).2 (calibrated.angularSigns axis) calibrated.rotScale positive⟩
  · rw [Prod.mk.injEq] at moves
    have still : |axisValue (0 : Vec3 ℝ) axis| = 0 := by
      cases axis <;> exact abs_zero
    rw [moves.1, moves.2, still]
    exact ⟨mul_nonneg calibrated.posScale positive, mul_nonneg calibrated.rotScale positive⟩

theorem length_servos (calls : List (Call (teleopEffects ℝ))) :
    (servos calls).length = teleopClock.actions calls :=
  List.length_filterMap_eq_countP

section Runs

variable {duration : Option ℝ} {maxTicks : Option Int} {rounds : Nat}
  {left : Program (teleopEffects ℝ) (Except Exc (Nat × Bool) × SpaceMouseTeleop ℝ)}

theorem servos_bounded (calibrated : settings.Calibrated)
    (ran : Trace (settings.run duration maxTicks rounds teleop) calls left)
    (normal : ∀ st ∈ readings calls, st.Normal) {call : TeleopServo ℝ}
    (member : call ∈ servos calls)
    (axis : Axis) :
    |axisValue call.translation axis| ≤ settings.posScale * settings.dt ∧
      |axisValue call.rotation axis| ≤ settings.rotScale * settings.dt := by
  obtain ⟨c, within, served⟩ := List.mem_filterMap.mp member
  obtain ⟨before, after, split⟩ := List.append_of_mem within
  have same : c.op = .servoCartesianDelta call := by
    obtain ⟨op, answer⟩ := c
    cases op with
    | servoCartesianDelta call' => exact congrArg _ (Option.some.inj served)
    | openSource | closeSource | read | acquireLease _ | startCartesianImpedance | getState | time
    | perfCounter | sleep _ => cases served
  obtain ⟨earlier, st, heeds⟩ := (run_mayDrive ran split).heeds call same
  apply heeds.bounded calibrated
  apply normal
  have seen : st ∈ readings before := by
    rw [heeds.read]
    exact List.mem_append_right _ (List.mem_singleton_self st)
  rw [split, readings_append]
  exact List.mem_append_left _ seen

/-- Wherever a run has got to, what it has commanded on an axis, the command it is at included,
is no more than full deflection for as long as it has run and one tick more. -/
theorem teleop_speed_bounded (calibrated : settings.Calibrated)
    (ran : Trace (settings.run duration maxTicks rounds teleop) calls left)
    (normal : ∀ st ∈ readings calls, st.Normal) (honest : teleopClock.Honest calls) :
    ∀ before call answer after, calls = before ++ ⟨.servoCartesianDelta call, answer⟩ :: after →
      ∃ begun now, teleopClock.start before = some begun ∧ teleopClock.latest before = some now ∧
        ∀ axis,
          ((servos before ++ [call]).map fun call => |axisValue call.translation axis|).sum ≤
              settings.posScale * (now - begun + settings.dt) ∧
            ((servos before ++ [call]).map fun call => |axisValue call.rotation axis|).sum ≤
              settings.rotScale * (now - begun + settings.dt) := by
  rintro before call answer after rfl
  have allowed := (Program.wp_sound (wp_run_paced calibrated.positive duration maxTicks rounds) ran
    honest.admitted).1
  have pace := Monitor.Allowed.at_call allowed rfl
  rw [Timepiece.run_paced, List.nil_append] at pace
  have few : (servos before ++ [call]).length ≤ teleopClock.actions before + 1 := by
    rw [List.length_append, length_servos]
    exact le_rfl
  have among (a : TeleopServo ℝ) (member : a ∈ servos before ++ [call]) :
      a ∈ servos (before ++ ⟨.servoCartesianDelta call, answer⟩ :: after) := by
    rw [servos_append]
    rcases List.mem_append.mp member with earlier | now
    · exact List.mem_append_left _ earlier
    · rw [List.mem_singleton.mp now]
      exact List.mem_append_right _ List.mem_cons_self
  have bounds (axis : Axis) (a : TeleopServo ℝ) (member : a ∈ servos before ++ [call]) :=
    servos_bounded calibrated ran normal (among a member) axis
  obtain ⟨begun, now, started, time, least⟩ := pace
  refine ⟨begun, now, started, time, ?_⟩
  intro axis
  exact ⟨Timepiece.sum_le_of_pace least (fun a member => (bounds axis a member).1)
      calibrated.posScale few calibrated.positive,
    Timepiece.sum_le_of_pace least (fun a member => (bounds axis a member).2)
      calibrated.rotScale few calibrated.positive⟩

end Runs

end Rate

theorem defaults_calibrated : TeleopSettings.Calibrated ({} : TeleopSettings ℝ) where
  publishing := by norm_num
  posScale := by norm_num
  rotScale := by norm_num
  linearSigns axis := by
    cases axis <;> norm_num [axisValue]
  angularSigns axis := by
    cases axis <;> norm_num [axisValue]

theorem pushed_normal : pushed.Normal := by
  intro axis
  cases axis <;> norm_num [pushed, axisValue]

theorem drive_normal : ∀ st ∈ readings drive, st.Normal := by
  intro st member
  have pushes : st.translation = pushed.translation ∧ st.rotation = pushed.rotation := by
    change st ∈ [pushed, deadmanUp, bothDown] at member
    rcases List.mem_cons.mp member with first | member
    · rw [first]
      exact ⟨rfl, rfl⟩
    rcases List.mem_cons.mp member with second | member
    · rw [second]
      exact ⟨rfl, rfl⟩
    · rw [List.mem_singleton.mp member]
      exact ⟨rfl, rfl⟩
  intro axis
  rw [pushes.1, pushes.2]
  exact pushed_normal axis

theorem drive_honest : teleopClock.Honest drive := by
  simp only [Timepiece.Honest, drive, readying, regripping, waited, List.cons_append,
    List.nil_append, Timepiece.HonestFrom, Timepiece.after, teleopClock, Option.mem_def]
  norm_num [TeleopSettings.dt]
  have unread (now : ℝ) : ∀ t : ℝ, none = some t → now ≤ t := by
    intro t impossible
    cases impossible
  refine ⟨?_, ?_, unread _, unread _, unread _, unread _⟩
  · intro t impossible
    cases impossible
  · intro t impossible
    cases impossible

theorem teleop_speed_bounded_drive : ∃ begun now,
    teleopClock.start (readying ++ regripping) = some begun ∧
      teleopClock.latest (readying ++ regripping) = some now ∧
        |pushedDelta.translation.x| + |opens.translation.x| + |pushedDelta.translation.x| ≤
          Scalar.ofRat (6 / 100) * (now - begun + 1 / Scalar.ofNat 100) := by
  obtain ⟨begun, now, started, time, bounded⟩ := teleop_speed_bounded defaults_calibrated
    drive_traced drive_normal drive_honest (readying ++ regripping) pushedDelta (.ok {}) _ rfl
  refine ⟨begun, now, started, time, ?_⟩
  have along := (bounded .x).1
  change ([|pushedDelta.translation.x|, |opens.translation.x|, |pushedDelta.translation.x|] :
    List ℝ).sum ≤ _ at along
  rw [List.sum_cons, List.sum_cons, List.sum_singleton, ← add_assoc] at along
  exact along

end FlexivControl
