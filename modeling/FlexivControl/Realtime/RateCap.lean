/-
The linear speed of the streamed positions against the rate the daemon was given.

Each tick moves at most `maxLinSpeed / freq`, and the scheduler runs a tick every
millisecond whatever `freq` says: the speed cap holds exactly for rates of at least
one kilohertz.
-/

import FlexivControl.Library.StepLimit
import FlexivControl.Realtime.Daemon

namespace FlexivControl

open StepLimit

theorem SafetyBox.clampInto_toE (box : SafetyBox ℝ) (pose prev : Pose ℝ) (dt : ℝ) :
    (box.clampInto pose prev dt).pos.toE =
      prev.pos.toE + limit (max (box.maxLinSpeed * dt) (1 / 1000000000)) (box.maxLinSpeed * dt)
        (1 / 1000000000) ((box.boxed pose.pos).toE - prev.pos.toE) := by
  have length : ‖(box.boxed pose.pos).toE - prev.pos.toE‖ =
      (box.boxed pose.pos - prev.pos).norm := by
    rw [← Vec3.toE_sub, Vec3.norm_toE]
  have tiny : (Scalar.ofRat (1 / 1000000000) : ℝ) = 1 / 1000000000 := by
    rw [Scalar.ofRat_real]
    norm_num
  unfold clampInto
  dsimp only
  rw [tiny]
  split
  · rename_i long
    have passed : max (box.maxLinSpeed * dt) (1 / 1000000000) <
        ‖(box.boxed pose.pos).toE - prev.pos.toE‖ := by
      rw [length]
      exact max_lt long.1 long.2
    rw [limit_of_lt passed, length, max_eq_left long.2.le]
    simp only [Vec3.toE_add, Vec3.toE_mul, Vec3.toE_sub]
  · rename_i short
    have kept : ‖(box.boxed pose.pos).toE - prev.pos.toE‖ ≤
        max (box.maxLinSpeed * dt) (1 / 1000000000) := by
      rw [length]
      by_contra above
      exact short (max_lt_iff.mp (not_le.mp above))
    rw [limit_of_le kept, add_sub_cancel]

theorem SafetyBox.clampInto_near (box : SafetyBox ℝ) (pose prev : Pose ℝ) {dt : ℝ}
    (nonneg : 0 ≤ box.maxLinSpeed * dt) :
    ‖(box.clampInto pose prev dt).pos.toE - prev.pos.toE‖ ≤
      max (box.maxLinSpeed * dt) (1 / 1000000000) := by
  rw [clampInto_toE, add_sub_cancel_left]
  exact norm_limit_le_threshold _ nonneg (le_max_left _ _) _

theorem SafetyBox.clampInto_far (box : SafetyBox ℝ) {pose prev : Pose ℝ} {dt : ℝ}
    (nonneg : 0 ≤ box.maxLinSpeed * dt)
    (far : max (box.maxLinSpeed * dt) (1 / 1000000000) <
      ‖(box.boxed pose.pos).toE - prev.pos.toE‖) :
    ‖(box.clampInto pose prev dt).pos.toE - prev.pos.toE‖ = box.maxLinSpeed * dt := by
  have long := max_lt_iff.mp far
  rw [clampInto_toE, add_sub_cancel_left, limit_of_lt far, max_eq_left long.2.le, norm_smul,
    Real.norm_of_nonneg (div_nonneg nonneg (norm_nonneg _))]
  exact div_mul_cancel₀ _ (ne_of_gt (lt_of_le_of_lt nonneg long.1))

/-- A target that is the commanded pose already, inside the box, is left alone. -/
theorem SafetyBox.clampInto_self (box : SafetyBox ℝ) {pose : Pose ℝ} (dt : ℝ)
    (inside : box.boxed pose.pos = pose.pos) : box.clampInto pose pose dt = pose := by
  have nonneg : (0 : ℝ) ≤ max (box.maxLinSpeed * dt) (1 / 1000000000) :=
    le_max_of_le_right (by norm_num)
  have position : (box.clampInto pose pose dt).pos = pose.pos := by
    apply Vec3.toE_injective
    rw [clampInto_toE, inside, sub_self, limit_of_le (norm_zero.trans_le nonneg), add_zero]
  have orientation : (box.clampInto pose pose dt).quat = pose.quat := by
    unfold clampInto
    dsimp only
    split <;> rfl
  exact Pose.ext position orientation

/-- What holds between any two steps: the ticks streamed one after another, each within
`bound` of the one before, and after a stop nothing. -/
structure Daemon.Paced (bound : ℝ) (daemon : Daemon ℝ) (sent : List (RtCommand ℝ))
    (silent : Nat) : Prop where
  shape : daemon.ticks = sent.map some ++ List.replicate silent none
  chain : (sent.map fun c => c.pose.pos.toE).IsChain fun x y => ‖y - x‖ ≤ bound
  last : ∀ c ∈ sent.getLast?, c.pose = daemon.lastCmd
  fresh : daemon.phase = .starting → sent = []
  stopped : silent ≠ 0 → daemon.stopping = true ∧ daemon.phase = .waiting

section Runs

variable {bound : ℝ} {config : DaemonConfig} {daemon : Daemon ℝ}

theorem Daemon.seeded_paced (bound : ℝ) (tcpPose : Pose ℝ) (nowNs : Nat) :
    (Daemon.seeded tcpPose nowNs).Paced bound [] 0 where
  shape := rfl
  chain := List.isChain_nil
  last := fun _ impossible => nomatch impossible
  fresh := fun _ => rfl
  stopped := fun nonzero => absurd rfl nonzero

theorem Daemon.Paced.keep {daemon' : Daemon ℝ} {sent : List (RtCommand ℝ)} {silent : Nat}
    (paced : daemon.Paced bound sent silent) (ticks : daemon'.ticks = daemon.ticks)
    (lastCmd : daemon'.lastCmd = daemon.lastCmd) (phase : daemon'.phase = daemon.phase)
    (stopping : daemon.stopping = true → daemon'.stopping = true) :
    daemon'.Paced bound sent silent where
  shape := ticks.trans paced.shape
  chain := paced.chain
  last := fun c member => (paced.last c member).trans lastCmd.symm
  fresh := fun starting => paced.fresh (phase ▸ starting)
  stopped := by
    intro nonzero
    obtain ⟨up, waiting⟩ := paced.stopped nonzero
    exact ⟨stopping up, phase.trans waiting⟩

theorem Daemon.Paced.stream {sent : List (RtCommand ℝ)} {silent : Nat}
    (paced : daemon.Paced bound sent silent) (reading : daemon.phase = .reading) (nowNs : Nat)
    (near : ∀ pose : Pose ℝ, ‖((safety.clampInto pose daemon.lastCmd
      config.dt).pos.toE - daemon.lastCmd.pos.toE)‖ ≤ bound) :
    (daemon.stream config nowNs).Paced bound (sent ++ [daemon.command config nowNs]) 0 := by
  have quiet : silent = 0 := by
    by_contra nonzero
    have waiting := (paced.stopped nonzero).2
    rw [reading] at waiting
    cases waiting
  refine ⟨?_, ?_, ?_, ?_, fun nonzero => absurd rfl nonzero⟩
  · have before := paced.shape
    rw [quiet, List.replicate_zero, List.append_nil] at before
    rw [List.map_append, List.replicate_zero, List.append_nil, ← before]
    rfl
  · rw [List.map_append, List.isChain_append]
    refine ⟨paced.chain, List.isChain_singleton _, ?_⟩
    intro x atEnd y atHead
    obtain ⟨c, isLast, rfl⟩ := Option.mem_map.mp (List.getLast?_map ▸ atEnd)
    obtain rfl := Option.some.inj atHead
    rw [paced.last c isLast]
    exact near _
  · intro c member
    rw [List.getLast?_concat] at member
    obtain rfl := Option.some.inj member
    rfl
  · intro starting
    cases starting

theorem Daemon.Paced.step {sent : List (RtCommand ℝ)} {silent : Nat}
    (paced : daemon.Paced bound sent silent)
    (near : ∀ pose prev : Pose ℝ, ‖((safety.clampInto pose prev
      config.dt).pos.toE - prev.pos.toE)‖ ≤ bound) (event : DaemonEvent ℝ) :
    ∃ sent' silent', (daemon.step config event).Paced bound sent' silent' := by
  cases event with
  | publish sp =>
      refine ⟨sent, silent, ?_⟩
      unfold Daemon.step
      dsimp only
      split
      · exact paced
      · exact paced.keep rfl rfl rfl id
  | stamp nowNs =>
      refine ⟨sent, silent, ?_⟩
      unfold Daemon.step
      dsimp only
      split
      · exact paced.keep rfl rfl rfl id
      · exact paced
  | requestStop => exact ⟨sent, silent, paced.keep rfl rfl rfl (fun _ => rfl)⟩
  | readSeed spurious =>
      unfold Daemon.step
      dsimp only
      split
      · rename_i starting
        have none := paced.fresh starting
        subst none
        refine ⟨[], silent, ?_⟩
        refine ⟨paced.shape, paced.chain, ?_, fun _ => rfl, ?_⟩
        · intro c impossible
          cases impossible
        · intro nonzero
          exact ⟨(paced.stopped nonzero).1, rfl⟩
      · exact ⟨sent, silent, paced⟩
  | beginTick spurious =>
      unfold Daemon.step
      dsimp only
      split
      · rename_i waiting
        split
        · rename_i stopping
          refine ⟨sent, silent + 1, ?_⟩
          refine ⟨?_, paced.chain, paced.last, paced.fresh, fun _ => ⟨stopping, waiting⟩⟩
          rw [List.replicate_succ', ← List.append_assoc, ← paced.shape]
        · rename_i running
          have quiet : silent = 0 := by
            by_contra nonzero
            exact running (paced.stopped nonzero).1
          subst quiet
          refine ⟨sent, 0, ?_⟩
          refine ⟨paced.shape, paced.chain, paced.last, ?_, fun nonzero => absurd rfl nonzero⟩
          intro starting
          cases starting
      · exact ⟨sent, silent, paced⟩
  | finishTick nowNs =>
      unfold Daemon.step
      dsimp only
      split
      · rename_i reading
        exact ⟨_, 0, paced.stream reading nowNs (fun pose => near pose daemon.lastCmd)⟩
      · exact ⟨sent, silent, paced⟩

theorem Daemon.Paced.run
    (near : ∀ pose prev : Pose ℝ, ‖((safety.clampInto pose prev
      config.dt).pos.toE - prev.pos.toE)‖ ≤ bound) (events : List (DaemonEvent ℝ)) :
    ∀ {daemon : Daemon ℝ} {sent : List (RtCommand ℝ)} {silent : Nat},
      daemon.Paced bound sent silent →
        ∃ sent' silent', (daemon.run config events).Paced bound sent' silent' := by
  induction events with
  | nil => exact fun paced => ⟨_, _, paced⟩
  | cons event events ih =>
      intro daemon sent silent paced
      obtain ⟨sent', silent', stepped⟩ := paced.step near event
      exact ih stepped

theorem Daemon.Paced.sent_of_tick {sent : List (RtCommand ℝ)} {silent : Nat}
    (paced : daemon.Paced bound sent silent) {i : Nat} {command : RtCommand ℝ}
    (streamed : daemon.ticks[i]? = some (some command)) :
    (sent.map fun c => c.pose.pos.toE)[i]? = some command.pose.pos.toE := by
  rw [paced.shape, List.getElem?_append, List.length_map] at streamed
  split at streamed
  · rw [List.getElem?_map] at streamed
    obtain ⟨c, found, same⟩ := Option.map_eq_some_iff.mp streamed
    rw [List.getElem?_map, found, Option.some.inj same]
    rfl
  · have member := List.mem_of_getElem? streamed
    cases List.eq_of_mem_replicate member

end Runs

/-- In every run with these arguments, two positions streamed `k` ticks of a millisecond
apart are no farther from each other than the speed cap allows. -/
def RateCapped (args : List String) : Prop :=
  ∀ (tcpPose : Pose ℝ) (nowNs : Nat) (events : List (DaemonEvent ℝ)) (daemon : Daemon ℝ)
    (i k : Nat) (first last : RtCommand ℝ),
    runDaemon args tcpPose nowNs events = .ok daemon →
    daemon.ticks[i]? = some (some first) → daemon.ticks[i + k]? = some (some last) →
      (last.pose.pos - first.pose.pos).norm ≤
        (safety : SafetyBox ℝ).maxLinSpeed * k * (1 / 1000)

theorem DaemonConfig.cap_eq (config : DaemonConfig) :
    (safety : SafetyBox ℝ).maxLinSpeed * config.dt = 1 / 4 / config.freq := by
  simp only [dt, safety, Scalar.ofRat_real, Scalar.ofInt_real]
  push_cast
  ring

theorem DaemonConfig.cap_nonneg (config : DaemonConfig) (positive : 0 < config.freq) :
    (0 : ℝ) ≤ (safety : SafetyBox ℝ).maxLinSpeed * config.dt := by
  have rate : (0 : ℝ) < config.freq := Int.cast_pos.mpr positive
  rw [config.cap_eq]
  positivity

theorem maxLinSpeed_milli (k : ℝ) :
    (safety : SafetyBox ℝ).maxLinSpeed * k * (1 / 1000) = 1 / 4000 * k := by
  simp only [safety, Scalar.ofRat_real]
  push_cast
  ring

theorem rateCapped_of_fast {args : List String} {config : DaemonConfig}
    (parsed : parseArgs args = .ok config) (fast : 1000 ≤ config.freq) : RateCapped args := by
  have rate : (1000 : ℝ) ≤ config.freq := by exact_mod_cast fast
  have positive : 0 < config.freq := by omega
  have small : max ((safety : SafetyBox ℝ).maxLinSpeed * config.dt) (1 / 1000000000) ≤
      1 / 4000 := by
    refine max_le ?_ (by norm_num)
    rw [config.cap_eq, div_le_iff₀ (by linarith)]
    linarith
  have near : ∀ pose prev : Pose ℝ, ‖(safety.clampInto pose prev
      config.dt).pos.toE - prev.pos.toE‖ ≤ 1 / 4000 := by
    intro pose prev
    exact le_trans (SafetyBox.clampInto_near _ pose prev (config.cap_nonneg positive)) small
  intro tcpPose nowNs events daemon i k first last ran atFirst atLast
  rw [runDaemon_of_parse parsed] at ran
  obtain rfl := Except.ok.inj ran
  obtain ⟨sent, silent, paced⟩ :=
    Daemon.Paced.run near events (Daemon.seeded_paced (1 / 4000) tcpPose nowNs)
  have apart := norm_sub_le_of_isChain paced.chain (paced.sent_of_tick atFirst)
    (paced.sent_of_tick atLast)
  rw [← Vec3.toE_sub, Vec3.norm_toE] at apart
  rw [maxLinSpeed_milli]
  exact apart

noncomputable def benchPose : Pose ℝ := ⟨⟨3 / 10, 0, 3 / 10⟩, 1⟩

noncomputable def farPose : Pose ℝ := ⟨⟨3 / 4, 0, 3 / 10⟩, 1⟩

noncomputable def slowRun : List (DaemonEvent ℝ) :=
  [.readSeed false, .beginTick false, .finishTick 0, .publish { pose := farPose }, .stamp 0,
    .beginTick false, .finishTick 0]

theorem boxed_benchPose : safety.boxed benchPose.pos = benchPose.pos := by
  norm_num [SafetyBox.boxed, benchPose, safety]

theorem far_apart : ‖(safety.boxed farPose.pos).toE - benchPose.pos.toE‖ = 9 / 20 := by
  have along : safety.boxed farPose.pos - benchPose.pos = ⟨9 / 20, 0, 0⟩ := by
    ext <;> norm_num [SafetyBox.boxed, benchPose, farPose, safety]
  rw [← Vec3.toE_sub, Vec3.norm_toE, along, Vec3.norm, Scalar.sqrt_real, mul_zero, add_zero,
    add_zero]
  exact Real.sqrt_mul_self (by norm_num)

theorem slowRun_ticks (config : DaemonConfig) :
    ((Daemon.seeded benchPose 0).run config slowRun).ticks =
      [some ⟨benchPose, fun _ => 0⟩,
        some ⟨safety.clampInto farPose benchPose config.dt, fun _ => 0⟩] := by
  have held := SafetyBox.clampInto_self safety config.dt boxed_benchPose
  norm_num [Daemon.run, slowRun, Daemon.step, Daemon.seeded, Daemon.stream, Daemon.command,
    SetPointMailbox.publish, SetPointMailbox.stamp, SetPointMailbox.tryRead,
    SetPointMailbox.ageMs, held]

theorem slowRun_outruns {config : DaemonConfig} (positive : 0 < config.freq)
    (slow : config.freq < 1000) :
    (safety : SafetyBox ℝ).maxLinSpeed * (1 : Nat) * (1 / 1000) <
      ((safety.clampInto farPose benchPose config.dt).pos - benchPose.pos).norm := by
  have rate : (1 : ℝ) ≤ config.freq := by exact_mod_cast positive
  have below : (config.freq : ℝ) < 1000 := by exact_mod_cast slow
  have far : max ((safety : SafetyBox ℝ).maxLinSpeed * config.dt) (1 / 1000000000) <
      ‖(safety.boxed farPose.pos).toE - benchPose.pos.toE‖ := by
    have capped : (1 : ℝ) / 4 / config.freq ≤ 1 / 4 := by
      rw [div_le_iff₀ (by linarith)]
      linarith
    rw [far_apart, config.cap_eq]
    exact max_lt (by linarith) (by norm_num)
  have moved := SafetyBox.clampInto_far safety (config.cap_nonneg positive) far
  rw [← Vec3.norm_toE, Vec3.toE_sub, moved, maxLinSpeed_milli, config.cap_eq,
    lt_div_iff₀ (by linarith)]
  push_cast
  linarith

/-- In every run the daemon keeps its speed cap exactly when the rate it was given is one
kilohertz or more. -/
theorem daemon_speed_capped_iff {args : List String} {config : DaemonConfig}
    (parsed : parseArgs args = .ok config) (positive : 0 < config.freq) :
    RateCapped args ↔ 1000 ≤ config.freq := by
  constructor
  · intro capped
    by_contra slow
    have ticks := slowRun_ticks config
    have apart := capped benchPose 0 slowRun _ 0 1 _ _ (runDaemon_of_parse parsed _ _ _)
      (by rw [ticks]; rfl) (by rw [ticks]; rfl)
    exact absurd apart (not_le.mpr (slowRun_outruns positive (not_le.mp slow)))
  · exact rateCapped_of_fast parsed

theorem daemon_speed_capped_iff_fast : RateCapped ["Rizon4", "--freq", "2000"] := by
  have parsed : parseArgs ["Rizon4", "--freq", "2000"] =
      .ok { robotSn := "Rizon4", freq := 2000 } := by
    decide
  exact (daemon_speed_capped_iff parsed (by decide)).mpr (by decide)

/-- At 500 Hz the second tick of the slow run moves half a millimetre. -/
theorem daemon_outruns_cap :
    ∃ daemon first last, runDaemon ["Rizon4", "--freq", "500"] benchPose 0 slowRun = .ok daemon ∧
      daemon.ticks[0]? = some (some first) ∧ daemon.ticks[0 + 1]? = some (some last) ∧
      (safety : SafetyBox ℝ).maxLinSpeed * (1 : Nat) * (1 / 1000) <
        (last.pose.pos - first.pose.pos).norm := by
  have parsed : parseArgs ["Rizon4", "--freq", "500"] =
      .ok { robotSn := "Rizon4", freq := 500 } := by
    decide
  have ticks := slowRun_ticks { robotSn := "Rizon4", freq := 500 }
  refine ⟨_, _, _, runDaemon_of_parse parsed _ _ _, by rw [ticks]; rfl, by rw [ticks]; rfl, ?_⟩
  exact slowRun_outruns (by decide) (by decide)

end FlexivControl
