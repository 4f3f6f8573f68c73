/-
Holding position under load.

A pass that finds its commands stale streams the pose it measures. An arm that settles
a fixed offset away from what it is sent is measured that offset further on every pass,
and the next hold streams the offset pose in turn.
-/

import FlexivControl.Loop.Restart

namespace FlexivControl

section Passes

variable {K : Type} [Scalar K]

/-- A stale Cartesian command under a profile that holds for as long as it takes, with
nothing else to stop the pass. -/
structure Snapshot.WaitsIn (snap : Snapshot K) (filter : SafetyFilter K) : Prop where
  healthy : snap.faulted = false
  young : (filter.checkStateAge snap.stateAgeMs).ok = true
  stale : snap.stale filter.p = true
  stops : filter.p.stopOnStaleCommand = true
  untimed : filter.p.holdTimeoutMs = none
  space : snap.cartesian = true

/-- A stale pass whose backend calls succeed. -/
structure Tick.StaleHold (t : Tick K) : Prop where
  accepting : t.input.Accepting
  waits : ∃ snap loop, t.atWrite = some (snap, loop) ∧ snap.WaitsIn loop.filter

def ReactiveServoLoop.heldAt (loop : ReactiveServoLoop K) (state : RobotState K) :
    ReactiveServoLoop K :=
  { loop with stats := { loop.stats with lastStatus := .holding } }.withFilter
    (loop.filter.reset (some state))

theorem holdPosition_accepted {input : TickInput K} (accepting : input.Accepting)
    (state : RobotState K) (robot : Robot K) (loop : ReactiveServoLoop K) :
    ∃ calls, streamedIn calls = some (.cartesian state.tcpPose) ∧
      holdPosition input state robot true { loop := loop } =
        (.ok (), { loop := loop.heldAt state, calls := calls }) := by
  obtain ⟨mode, mute, ran⟩ := ensureStreamMode_accepted accepting state robot true
    { loop := loop.heldAt state }
  refine ⟨mode ++ [.streamCartesian state.tcpPose none], streamedIn_first mute rfl, ?_⟩
  unfold holdPosition
  rw [update_bind, update_bind]
  change (do ensureStreamMode input state robot true; _) { loop := loop.heldAt state } = _
  rw [LoopM.bind_apply, ran]
  dsimp only
  rw [if_pos rfl, command_accepted accepting]
  rfl

theorem Snapshot.WaitsIn.section_eq {input : TickInput K} {snap : Snapshot K} {robot : Robot K}
    (waits : snap.WaitsIn robot.filter) (pass : Pass K) :
    writeSection input snap robot pass = holdPosition input snap.state robot true pass := by
  have short : snap.heldTooLong robot.filter.p = false := by
    unfold Snapshot.heldTooLong
    rw [waits.untimed]
  unfold writeSection
  simp only [waits.healthy, waits.young, waits.stale, waits.stops, short, waits.space]
  rfl

theorem Tick.StaleHold.result_eq {t : Tick K} (hold : t.StaleHold) :
    ∃ snap loop calls, t.atWrite = some (snap, loop) ∧
      streamedIn calls = some (.cartesian snap.state.tcpPose) ∧
      t.result =
        { loop := (loop.heldAt snap.state).diagnose t.input, calls := calls, raised := none } := by
  obtain ⟨snap, loop, at_write, waits⟩ := hold.waits
  obtain ⟨calls, streamed, ran⟩ := holdPosition_accepted hold.accepting snap.state loop.robot loop
  refine ⟨snap, loop, calls, at_write, streamed, ?_⟩
  have section_eq : writeSection t.input snap loop.robot { loop := loop } = _ :=
    waits.section_eq { loop := loop }
  unfold result ReactiveServoLoop.tick
  unfold atWrite at at_write
  cases arrived : t.before.arrive t.input with
  | mk out here =>
      rw [arrived] at at_write
      cases out with
      | error e => cases at_write
      | ok snap' =>
          cases at_write
          dsimp only
          rw [section_eq, ran]

theorem Tick.StaleHold.streams {t : Tick K} (hold : t.StaleHold) :
    ∃ state, t.measured = some state ∧ t.streamed = some (.cartesian state.tcpPose) := by
  obtain ⟨snap, loop, calls, at_write, streamed, result⟩ := hold.result_eq
  refine ⟨snap.state, ?_, ?_⟩
  · unfold Tick.measured
    rw [at_write]
    rfl
  · unfold Tick.streamed
    rw [result]
    exact streamed

end Passes

/-- The pass measures the position streamed on the one before, and a fixed offset. -/
def DeflectedBy (d : Vec3 ℝ) (t t' : Tick ℝ) : Prop :=
  ∀ pose state, t.streamed = some (.cartesian pose) → t'.measured = some state →
    state.tcpPose.pos = pose.pos + d

/-- No hold streams a position farther from the first than the offset is long. -/
def HoldSteady (d : Vec3 ℝ) (ticks : List (Tick ℝ)) : Prop :=
  ∀ (n : Nat) (first t : Tick ℝ) (p q : Pose ℝ), ticks[0]? = some first → ticks[n]? = some t →
    first.streamed = some (.cartesian p) → t.streamed = some (.cartesian q) →
    (q.pos - p.pos).norm ≤ d.norm

theorem held_position {d : Vec3 ℝ} {ticks : List (Tick ℝ)} (holding : ∀ t ∈ ticks, t.StaleHold)
    (deflected : ticks.IsChain (DeflectedBy d)) (n : Nat) :
    ∀ (first t : Tick ℝ) (p q : Pose ℝ), ticks[0]? = some first → ticks[n]? = some t →
      first.streamed = some (.cartesian p) → t.streamed = some (.cartesian q) →
      q.pos.toE = p.pos.toE + n • d.toE := by
  induction n with
  | zero =>
      intro first t p q at_first at_t streamed streamed'
      rw [at_first, Option.some.injEq] at at_t
      rw [at_t, streamed', Option.some.injEq, Setpoint.cartesian.injEq] at streamed
      rw [streamed, zero_smul, add_zero]
  | succ n ih =>
      intro first t p q at_first at_t streamed streamed'
      obtain ⟨inside, at_t⟩ := List.getElem?_eq_some_iff.mp at_t
      have earlier : n < ticks.length := Nat.lt_of_succ_lt inside
      obtain ⟨_, _, sent⟩ := (holding _ (List.getElem_mem earlier)).streams
      obtain ⟨state, measured, held⟩ := (holding _ (List.getElem_mem inside)).streams
      have next := List.isChain_iff_getElem.mp deflected n inside _ state sent measured
      have before := ih first _ p _ at_first (List.getElem?_eq_getElem earlier) streamed sent
      rw [at_t, streamed', Option.some.injEq, Setpoint.cartesian.injEq] at held
      rw [held, next, Vec3.toE_add, before, succ_nsmul, add_assoc]

theorem held_distance {d : Vec3 ℝ} {ticks : List (Tick ℝ)} (holding : ∀ t ∈ ticks, t.StaleHold)
    (deflected : ticks.IsChain (DeflectedBy d)) {n : Nat} {first t : Tick ℝ} {p q : Pose ℝ}
    (at_first : ticks[0]? = some first) (at_t : ticks[n]? = some t)
    (streamed : first.streamed = some (.cartesian p))
    (streamed' : t.streamed = some (.cartesian q)) : (q.pos - p.pos).norm = n * d.norm := by
  have moved := held_position holding deflected n first t p q at_first at_t streamed streamed'
  rw [← Vec3.norm_toE, ← Vec3.norm_toE, Vec3.toE_sub, moved, add_sub_cancel_left,
    ← Nat.cast_smul_eq_nsmul ℝ, norm_smul, Real.norm_natCast]

theorem not_holdSteady {d : Vec3 ℝ} {ticks : List (Tick ℝ)} (holding : ∀ t ∈ ticks, t.StaleHold)
    (deflected : ticks.IsChain (DeflectedBy d)) (moved : d ≠ 0) (long : 2 < ticks.length) :
    ¬ HoldSteady d ticks := by
  intro steady
  have present : 0 < ticks.length := by omega
  obtain ⟨_, _, streamed⟩ := (holding _ (List.getElem_mem present)).streams
  obtain ⟨_, _, streamed'⟩ := (holding _ (List.getElem_mem long)).streams
  have at_first := List.getElem?_eq_getElem present
  have at_third := List.getElem?_eq_getElem long
  have bound := steady 2 _ _ _ _ at_first at_third streamed streamed'
  rw [held_distance holding deflected at_first at_third streamed streamed'] at bound
  have positive : 0 < d.norm := by
    rw [← Vec3.norm_toE, norm_pos_iff]
    intro zero
    exact moved (Vec3.toE_injective (zero.trans Vec3.toE_zero.symm))
  push_cast at bound
  linarith

/-- Over any number of stale passes in a row, a hold stays within the arm's static
deflection exactly when there is none, or before the third pass. -/
theorem hold_steady_iff (loop : ReactiveServoLoop ℝ) (inputs : List (TickInput ℝ)) (d : Vec3 ℝ)
    (holding : ∀ t ∈ loop.runInner inputs, t.StaleHold)
    (deflected : (loop.runInner inputs).IsChain (DeflectedBy d)) :
    HoldSteady d (loop.runInner inputs) ↔ d = 0 ∨ (loop.runInner inputs).length ≤ 2 := by
  constructor
  · intro steady
    by_contra neither
    obtain ⟨moved, long⟩ := not_or.mp neither
    exact not_holdSteady holding deflected moved (by omega) steady
  · intro still n first t p q at_first at_t streamed streamed'
    rw [held_distance holding deflected at_first at_t streamed streamed']
    rcases still with none | short
    · rw [none, ← Vec3.norm_toE, Vec3.toE_zero, norm_zero, mul_zero]
    · obtain ⟨inside, _⟩ := List.getElem?_eq_some_iff.mp at_t
      have first : (n : ℝ) ≤ 1 := by
        have few : n ≤ 1 := by omega
        exact_mod_cast few
      have nonneg : 0 ≤ d.norm := by
        rw [← Vec3.norm_toE]
        exact norm_nonneg _
      exact mul_le_of_le_one_left nonneg first

noncomputable def waiting (shift : ℝ) : TickInput ℝ where
  state := .ok (hoveringAt shift)
  stateClock := 0
  advanceClock := 0
  ageClock := 1

/-- A running Cartesian loop whose last command came at clock zero. -/
structure ReactiveServoLoop.Waits (loop : ReactiveServoLoop ℝ) : Prop where
  running : loop.running = true
  empty : loop.chunkIter = none
  space : loop.cartesian = true
  stamp : loop.cmdStamp = 0
  profile : loop.filter.p = tabletop

theorem waiting_prepared {loop : ReactiveServoLoop ℝ} (empty : loop.chunkIter = none)
    (shift : ℝ) : loop.prepare (waiting shift) (hoveringAt shift) =
      { loop with latestState := some (hoveringAt shift) } := by
  simp only [ReactiveServoLoop.prepare, ReactiveServoLoop.fetchChunk, ReactiveServoLoop.absorb,
    waiting, List.foldl_nil, empty]
  rfl

theorem waiting_atWrite {loop : ReactiveServoLoop ℝ} (waits : loop.Waits) (shift : ℝ) :
    ∃ snap here, Tick.atWrite ⟨loop, waiting shift⟩ = some (snap, here) ∧
      snap.state = hoveringAt shift ∧ snap.WaitsIn here.filter ∧ here.Waits := by
  have prepared := waiting_prepared waits.empty shift
  refine ⟨_, _, rfl, rfl, ?_, ?_⟩
  · change Snapshot.WaitsIn
      ((loop.prepare (waiting shift) (hoveringAt shift)).snapshot (waiting shift) (hoveringAt shift)
        false) (loop.prepare (waiting shift) (hoveringAt shift)).filter
    rw [prepared]
    have profile : ({ loop with latestState := some (hoveringAt shift) } :
      ReactiveServoLoop ℝ).filter.p = tabletop := waits.profile
    refine ⟨rfl, ?_, ?_, ?_, ?_, waits.space⟩
    · unfold SafetyFilter.checkStateAge
      rw [profile, if_neg (fun old => Bool.false_ne_true old.1)]
    · unfold Snapshot.stale
      rw [profile, decide_eq_true_iff]
      change tabletop.commandTimeoutMs / Scalar.ofNat 1000 < 1 - loop.cmdStamp
      rw [waits.stamp]
      norm_num [tabletop]
    · rw [profile]
      rfl
    · rw [profile]
      rfl
  · have kept (loop' : ReactiveServoLoop ℝ) (same : loop' =
        loop.prepare (waiting shift) (hoveringAt shift)) : loop'.Waits := by
      rw [same, prepared]
      exact ⟨waits.running, waits.empty, waits.space, waits.stamp, waits.profile⟩
    have waits' := kept _ rfl
    exact ⟨waits'.running, waits'.empty, waits'.space, waits'.stamp, waits'.profile⟩

theorem ReactiveServoLoop.Waits.held {loop : ReactiveServoLoop ℝ} (waits : loop.Waits)
    (state : RobotState ℝ) (input : TickInput ℝ) : ((loop.heldAt state).diagnose input).Waits := by
  have profile : (loop.heldAt state).filter.p = tabletop := waits.profile
  unfold diagnose
  dsimp only
  split
  · exact ⟨waits.running, waits.empty, waits.space, waits.stamp, profile⟩
  · exact ⟨waits.running, waits.empty, waits.space, waits.stamp, profile⟩

theorem waiting_spec {loop : ReactiveServoLoop ℝ} (waits : loop.Waits) (shift : ℝ) :
    Tick.StaleHold ⟨loop, waiting shift⟩ ∧
      Tick.measured ⟨loop, waiting shift⟩ = some (hoveringAt shift) ∧
      (loop.tick (waiting shift)).loop.Waits := by
  obtain ⟨snap, here, at_write, state, stale, waits'⟩ := waiting_atWrite waits shift
  have hold : Tick.StaleHold ⟨loop, waiting shift⟩ := ⟨fun _ => rfl, snap, here, at_write, stale⟩
  refine ⟨hold, ?_, ?_⟩
  · unfold Tick.measured
    rw [at_write, ← state]
    rfl
  · obtain ⟨snap', here', calls, at_write', _, result⟩ := hold.result_eq
    rw [at_write, Option.some.injEq, Prod.mk.injEq] at at_write'
    rw [← at_write'.1, ← at_write'.2] at result
    unfold Tick.result at result
    rw [result]
    exact waits'.held _ _

theorem waiting_run (shifts : List ℝ) : ∀ {loop : ReactiveServoLoop ℝ}, loop.Waits →
    (∀ t ∈ loop.runInner (shifts.map waiting), t.StaleHold) ∧
      (loop.runInner (shifts.map waiting)).map Tick.measured =
        shifts.map fun shift => some (hoveringAt shift) := by
  induction shifts with
  | nil =>
      intro loop _
      constructor
      · intro t nothing
        cases nothing
      · rfl
  | cons shift rest ih =>
      intro loop waits
      obtain ⟨hold, measured, waits'⟩ := waiting_spec waits shift
      obtain ⟨holds, later⟩ := ih waits'
      rw [List.map_cons]
      unfold ReactiveServoLoop.runInner
      rw [if_pos waits.running]
      constructor
      · intro t inside
        rcases List.mem_cons.mp inside with here | there
        · rw [here]
          exact hold
        · exact holds t there
      · rw [List.map_cons, List.map_cons, measured, later]

theorem tabletopLoop_waits : (tabletopLoop.start hovering hovering 0 0).2.Waits := by
  have profile : (tabletopLoop.start hovering hovering 0 0).2.filter.p = tabletop := by
    change tabletopLoop.filter.p = tabletop
    rw [tabletopLoop_filter]
    rfl
  exact ⟨rfl, rfl, rfl, rfl, profile⟩

/-- A hold whose arm sags by `sag` along x from each setpoint. -/
noncomputable def saggingRun (sag : ℝ) (n : Nat) : List (Tick ℝ) :=
  (tabletopLoop.start hovering hovering 0 0).2.runInner
    (((List.range n).map fun k : Nat => (k : ℝ) * sag).map waiting)

theorem onLine_add (x d : ℝ) : onLine (x + d) = onLine x + ⟨d, 0, 0⟩ := by
  apply Vec3.ext
  · rfl
  · exact (add_zero (0 : ℝ)).symm
  · exact (add_zero (3 / 10 : ℝ)).symm

theorem saggingRun_spec (sag : ℝ) (n : Nat) :
    (∀ t ∈ saggingRun sag n, t.StaleHold) ∧
      (saggingRun sag n).IsChain (DeflectedBy ⟨sag, 0, 0⟩) ∧ (saggingRun sag n).length = n := by
  obtain ⟨holds, measured⟩ := waiting_run ((List.range n).map fun k : Nat => (k : ℝ) * sag)
    tabletopLoop_waits
  have count := congrArg List.length measured
  rw [List.length_map, List.length_map, List.length_map, List.length_range] at count
  refine ⟨holds, ?_, count⟩
  rw [List.isChain_iff_getElem]
  intro i inside pose state streamed found
  have at_index (k : Nat) (bound : k < (saggingRun sag n).length) :
      (saggingRun sag n)[k].measured = some (hoveringAt (k * sag)) := by
    have same := congrArg (fun xs => xs[k]?) measured
    have small : k < n := by
      rw [← count]
      exact bound
    rw [List.getElem?_map, List.getElem?_map, List.getElem?_map, List.getElem?_range small] at same
    change (saggingRun sag n)[k]?.map _ = _ at same
    rw [List.getElem?_eq_getElem bound] at same
    exact Option.some.inj same
  obtain ⟨_, here, sent⟩ := (holds _ (List.getElem_mem (Nat.lt_of_succ_lt inside))).streams
  rw [at_index i (Nat.lt_of_succ_lt inside), Option.some.injEq] at here
  rw [at_index (i + 1) inside, Option.some.injEq] at found
  have sent' : some (Setpoint.cartesian pose) = _ := streamed.symm.trans sent
  rw [Option.some.injEq, Setpoint.cartesian.injEq] at sent'
  rw [← found, sent', ← here]
  change onLine _ = onLine _ + _
  rw [← onLine_add]
  congr 1
  push_cast
  ring

/-- Two passes of a sagging arm are within its deflection. -/
theorem hold_steady_iff_twice : HoldSteady ⟨1 / 100, 0, 0⟩ (saggingRun (1 / 100) 2) := by
  obtain ⟨holds, deflected, count⟩ := saggingRun_spec (1 / 100) 2
  exact (hold_steady_iff _ _ _ holds deflected).mpr (Or.inr count.le)

/-- Three passes of an arm that sags by a centimetre end two centimetres from the first. -/
theorem hold_drifts :
    (∀ t ∈ saggingRun (1 / 100) 3, t.StaleHold) ∧
      (saggingRun (1 / 100) 3).IsChain (DeflectedBy ⟨1 / 100, 0, 0⟩) ∧
      ¬ HoldSteady ⟨1 / 100, 0, 0⟩ (saggingRun (1 / 100) 3) := by
  obtain ⟨holds, deflected, count⟩ := saggingRun_spec (1 / 100) 3
  refine ⟨holds, deflected, not_holdSteady holds deflected ?_ (by rw [count]; norm_num)⟩
  intro zero
  have none : (1 / 100 : ℝ) = 0 := congrArg Vec3.x zero
  norm_num at none

end FlexivControl
