/-
What the daemon streams when nobody commands it.

The pose it is seeded with goes through the same clamp as a command, and the task starts
from the default setpoint where its first try at the mailbox fails: the seed is held exactly
when it lies in the box and is what the task starts from. A stale tick holds the last
streamed pose exactly when that pose lies in the box.
-/

import FlexivControl.Realtime.RateCap

namespace FlexivControl

open StepLimit

structure SafetyBox.Contains (box : SafetyBox ℝ) (pos : Vec3 ℝ) : Prop where
  x : box.xmin ≤ pos.x ∧ pos.x ≤ box.xmax
  y : box.ymin ≤ pos.y ∧ pos.y ≤ box.ymax
  z : box.zmin ≤ pos.z ∧ pos.z ≤ box.zmax

theorem SafetyBox.boxed_of_contains {box : SafetyBox ℝ} {pos : Vec3 ℝ} (inside : box.Contains pos) :
    box.boxed pos = pos := by
  unfold boxed
  simp only [Scalar.lesser_real, Scalar.greater_real]
  rw [max_eq_left inside.x.1, min_eq_left inside.x.2, max_eq_left inside.y.1,
    min_eq_left inside.y.2, max_eq_left inside.z.1, min_eq_left inside.z.2]

theorem safety_contains_boxed (pos : Vec3 ℝ) : (safety : SafetyBox ℝ).Contains (safety.boxed pos) := by
  have inside (v : ℝ) {lo hi : ℝ} (ordered : lo ≤ hi) :
      lo ≤ min (max v lo) hi ∧ min (max v lo) hi ≤ hi :=
    ⟨le_min (le_max_right _ _) ordered, min_le_right _ _⟩
  unfold SafetyBox.boxed
  simp only [Scalar.lesser_real, Scalar.greater_real]
  refine ⟨inside _ ?_, inside _ ?_, inside _ ?_⟩ <;> norm_num [safety]

theorem safety_contains_of_boxed {pos : Vec3 ℝ} (same : safety.boxed pos = pos) :
    (safety : SafetyBox ℝ).Contains pos := same ▸ safety_contains_boxed pos

noncomputable def defaultPose : Pose ℝ := ({} : SetPoint ℝ).pose

theorem safety_contains_default : (safety : SafetyBox ℝ).Contains defaultPose.pos := by
  constructor <;> norm_num [safety, defaultPose]

theorem contains_of_clampInto_self {config : DaemonConfig} (rated : config.freq ≠ 0)
    {pose : Pose ℝ} (held : safety.clampInto pose pose config.dt = pose) :
    (safety : SafetyBox ℝ).Contains pose.pos := by
  apply safety_contains_of_boxed
  have moved := safety.clampInto_toE pose pose config.dt
  rw [held, left_eq_add] at moved
  apply Vec3.toE_injective
  by_cases long : max ((safety : SafetyBox ℝ).maxLinSpeed * config.dt) (1 / 1000000000) <
      ‖(safety.boxed pose.pos).toE - pose.pos.toE‖
  · have cap : (safety : SafetyBox ℝ).maxLinSpeed * config.dt ≠ 0 := by
      rw [config.cap_eq]
      exact div_ne_zero (by norm_num) (Int.cast_ne_zero.mpr rated)
    have length := (max_lt_iff.mp long).2
    rw [limit_of_lt long, smul_eq_zero] at moved
    rcases moved with none | still
    · rw [max_eq_left length.le, div_eq_zero_iff] at none
      rcases none with zero | zero
      · exact absurd zero cap
      · rw [zero] at length
        norm_num at length
    · exact sub_eq_zero.mp still
  · rw [limit_of_le (not_lt.mp long)] at moved
    exact sub_eq_zero.mp moved

theorem clampInto_contains {prev : Pose ℝ} {dt : ℝ}
    (nonneg : 0 ≤ (safety : SafetyBox ℝ).maxLinSpeed * dt)
    (inside : (safety : SafetyBox ℝ).Contains prev.pos) (pose : Pose ℝ) :
    (safety : SafetyBox ℝ).Contains (safety.clampInto pose prev dt).pos := by
  have goal := safety_contains_boxed pose.pos
  unfold SafetyBox.clampInto
  dsimp only
  split
  · rename_i long
    have between {lo hi a b t : ℝ} (lower : 0 ≤ t) (upper : t ≤ 1) (first : lo ≤ a ∧ a ≤ hi)
        (last : lo ≤ b ∧ b ≤ hi) : lo ≤ a + (b - a) * t ∧ a + (b - a) * t ≤ hi := by
      constructor
      · nlinarith [first.1, last.1]
      · nlinarith [first.2, last.2]
    have positive : 0 < (safety.boxed pose.pos - prev.pos).norm := nonneg.trans_lt long.1
    have lower := div_nonneg nonneg positive.le
    have upper := (div_le_one positive).mpr long.1.le
    exact ⟨between lower upper inside.x goal.x, between lower upper inside.y goal.y,
      between lower upper inside.z goal.z⟩
  · exact goal

/-! ### Runs without a command -/

/-- Nobody publishes. -/
def Unpublished (events : List (DaemonEvent ℝ)) : Prop := ∀ event ∈ events, ∀ sp, event ≠ .publish sp

structure Daemon.Mailed (seed : Pose ℝ) (daemon : Daemon ℝ) : Prop where
  free : daemon.mailbox.held = false
  front : (daemon.mailbox.buf daemon.mailbox.front).pose = seed

theorem Daemon.Mailed.tryRead {seed : Pose ℝ} {daemon : Daemon ℝ} (mailed : daemon.Mailed seed)
    (spurious : Bool) : ∀ sp, daemon.mailbox.tryRead spurious = some sp → sp.pose = seed := by
  intro sp read
  unfold SetPointMailbox.tryRead at read
  split at read
  · cases read
  · rw [← Option.some.inj read]
    exact mailed.front

structure Daemon.Starting (seed : Pose ℝ) (daemon : Daemon ℝ) : Prop extends
    daemon.Mailed seed where
  phase : daemon.phase = .starting
  current : daemon.current.pose = defaultPose
  quiet : daemon.ticks = []

structure Daemon.AtSeed (seed : Pose ℝ) (daemon : Daemon ℝ) : Prop extends
    daemon.Mailed seed where
  started : daemon.phase ≠ .starting
  current : daemon.current.pose = seed
  lastCmd : daemon.lastCmd = seed
  still : ∀ command, some command ∈ daemon.ticks → command.pose = seed

theorem Daemon.seeded_starting (seed : Pose ℝ) (nowNs : Nat) :
    (Daemon.seeded seed nowNs).Starting seed where
  free := rfl
  front := by
    unfold Daemon.seeded SetPointMailbox.stamp SetPointMailbox.publish
    dsimp only
    rw [Function.update_self]
  phase := rfl
  current := rfl
  quiet := rfl

section Steps

variable {config : DaemonConfig} {daemon : Daemon ℝ} {seed : Pose ℝ}

theorem Daemon.Starting.step (starting : daemon.Starting seed) {event : DaemonEvent ℝ}
    (silent : ∀ sp, event ≠ .publish sp) (unread : ∀ spurious, event ≠ .readSeed spurious) :
    (daemon.step config event).Starting seed := by
  obtain ⟨⟨free, front⟩, phase, current, quiet⟩ := starting
  cases event with
  | publish sp => exact absurd rfl (silent sp)
  | readSeed spurious => exact absurd rfl (unread spurious)
  | stamp nowNs =>
      unfold Daemon.step
      rw [free]
      exact ⟨⟨free, front⟩, phase, current, quiet⟩
  | requestStop => exact ⟨⟨free, front⟩, phase, current, quiet⟩
  | beginTick spurious =>
      unfold Daemon.step
      rw [phase]
      exact ⟨⟨free, front⟩, phase, current, quiet⟩
  | finishTick nowNs =>
      unfold Daemon.step
      rw [phase]
      exact ⟨⟨free, front⟩, phase, current, quiet⟩

theorem Daemon.Starting.run (config : DaemonConfig) (events : List (DaemonEvent ℝ)) :
    ∀ {daemon : Daemon ℝ}, daemon.Starting seed → Unpublished events →
      (∀ event ∈ events, ∀ spurious, event ≠ .readSeed spurious) →
      (daemon.run config events).Starting seed := by
  induction events with
  | nil => exact fun starting _ _ => starting
  | cons event events ih =>
      intro daemon starting silent unread
      apply ih (starting.step (silent event List.mem_cons_self) (unread event List.mem_cons_self))
      · exact fun other member => silent other (List.mem_cons_of_mem event member)
      · exact fun other member => unread other (List.mem_cons_of_mem event member)

theorem Daemon.Starting.readSeed (starting : daemon.Starting seed) (config : DaemonConfig)
    (spurious : Bool) :
    (daemon.step config (.readSeed spurious)).Mailed seed ∧
      (daemon.step config (.readSeed spurious)).phase = .waiting ∧
      (daemon.step config (.readSeed spurious)).stopping = daemon.stopping ∧
      (daemon.step config (.readSeed spurious)).ticks = [] ∧
      (daemon.step config (.readSeed spurious)).current.pose =
        (if spurious then defaultPose else seed) ∧
      (daemon.step config (.readSeed spurious)).lastCmd =
        (if spurious then defaultPose else seed) := by
  obtain ⟨⟨free, front⟩, phase, current, quiet⟩ := starting
  have read : ((daemon.mailbox.tryRead spurious).getD daemon.current).pose =
      if spurious then defaultPose else seed := by
    unfold SetPointMailbox.tryRead
    rw [free]
    cases spurious with
    | true => exact current
    | false => exact front
  unfold Daemon.step
  dsimp only
  rw [if_pos phase]
  exact ⟨⟨free, front⟩, rfl, rfl, quiet, read, read⟩

theorem Daemon.AtSeed.step (inside : (safety : SafetyBox ℝ).Contains seed.pos)
    (held : daemon.AtSeed seed) {event : DaemonEvent ℝ} (silent : ∀ sp, event ≠ .publish sp) :
    (daemon.step config event).AtSeed seed := by
  obtain ⟨mailed, started, current, lastCmd, still⟩ := held
  have same : daemon.AtSeed seed := ⟨mailed, started, current, lastCmd, still⟩
  cases event with
  | publish sp => exact absurd rfl (silent sp)
  | stamp nowNs =>
      unfold Daemon.step
      rw [mailed.free]
      exact same
  | requestStop => exact ⟨⟨mailed.free, mailed.front⟩, started, current, lastCmd, still⟩
  | readSeed spurious =>
      unfold Daemon.step
      dsimp only
      rw [if_neg started]
      exact same
  | beginTick spurious =>
      unfold Daemon.step
      dsimp only
      split
      · split
        · refine ⟨⟨mailed.free, mailed.front⟩, started, current, lastCmd, ?_⟩
          intro command member
          rcases List.mem_append.mp member with before | last
          · exact still command before
          · cases List.mem_singleton.mp last
        · refine ⟨⟨mailed.free, mailed.front⟩, ?_, ?_, lastCmd, still⟩
          · intro starting
            cases starting
          · dsimp only
            cases read : daemon.mailbox.tryRead spurious with
            | none => exact current
            | some sp => exact mailed.tryRead spurious sp read
      · exact same
  | finishTick nowNs =>
      unfold Daemon.step
      dsimp only
      split
      · have streamed : (daemon.command config nowNs).pose = seed := by
          unfold Daemon.command
          dsimp only
          rw [lastCmd, current, ite_self]
          exact SafetyBox.clampInto_self safety _ (SafetyBox.boxed_of_contains inside)
        refine ⟨⟨mailed.free, mailed.front⟩, ?_, current, streamed, ?_⟩
        · intro starting
          cases starting
        · intro command member
          rcases List.mem_append.mp member with before | last
          · exact still command before
          · rw [Option.some.inj (List.mem_singleton.mp last)]
            exact streamed
      · exact same

theorem Daemon.AtSeed.run (inside : (safety : SafetyBox ℝ).Contains seed.pos)
    (events : List (DaemonEvent ℝ)) :
    ∀ {daemon : Daemon ℝ}, daemon.AtSeed seed → Unpublished events →
      (daemon.run config events).AtSeed seed := by
  induction events with
  | nil => exact fun held _ => held
  | cons event events ih =>
      intro daemon held silent
      apply ih (held.step inside (silent event List.mem_cons_self))
      exact fun other member => silent other (List.mem_cons_of_mem event member)

end Steps

/-- Whatever is answered to the later tries, the task streams nothing but the seed until
somebody publishes; `spurious` is the outcome of the start-up try. -/
def StaysAtSeed (config : DaemonConfig) (seed : Pose ℝ) (nowNs : Nat) (spurious : Bool) : Prop :=
  ∀ before after : List (DaemonEvent ℝ), Unpublished before → Unpublished after →
    (∀ event ∈ before, ∀ other, event ≠ .readSeed other) →
    ∀ command, some command ∈ ((Daemon.seeded seed nowNs).run config
      (before ++ .readSeed spurious :: after)).ticks → command.pose = seed

theorem Daemon.run_append (config : DaemonConfig) (daemon : Daemon ℝ)
    (events more : List (DaemonEvent ℝ)) :
    daemon.run config (events ++ more) = (daemon.run config events).run config more :=
  List.foldl_append

theorem Daemon.run_cons (config : DaemonConfig) (daemon : Daemon ℝ) (event : DaemonEvent ℝ)
    (events : List (DaemonEvent ℝ)) :
    daemon.run config (event :: events) = (daemon.step config event).run config events := rfl

def blindTick : List (DaemonEvent ℝ) := [.beginTick true, .finishTick 0]

theorem nothing_unpublished : Unpublished [] :=
  fun _ impossible => absurd impossible List.not_mem_nil

theorem blindTick_unpublished : Unpublished blindTick := by
  intro event member sp same
  rw [same] at member
  simp only [blindTick, List.mem_cons, List.not_mem_nil, or_false, reduceCtorEq] at member

theorem blindTick_streams (config : DaemonConfig) (seed : Pose ℝ) (nowNs : Nat) (spurious : Bool) :
    let start := if spurious then defaultPose else seed
    ∃ command, some command ∈ ((Daemon.seeded seed nowNs).run config
        ([] ++ .readSeed spurious :: blindTick)).ticks ∧
      command.pose = safety.clampInto start start config.dt := by
  obtain ⟨mailed, phase, running, quiet, current, lastCmd⟩ :=
    (Daemon.seeded_starting seed nowNs).readSeed config spurious
  intro start
  rw [List.nil_append, Daemon.run_cons]
  generalize (Daemon.seeded seed nowNs).step config (.readSeed spurious) = daemon at *
  have go : daemon.stopping = false := running
  have began : daemon.step config (.beginTick true) = { daemon with phase := .reading } := by
    unfold Daemon.step
    dsimp only
    rw [if_pos phase, go, if_neg Bool.false_ne_true]
    unfold SetPointMailbox.tryRead
    rw [Bool.or_true, if_pos rfl]
    rfl
  refine ⟨({ daemon with phase := .reading } : Daemon ℝ).command config 0, ?_, ?_⟩
  · rw [blindTick, Daemon.run_cons, began]
    change _ ∈ daemon.ticks ++ [_]
    exact List.mem_append_right _ (List.mem_singleton_self _)
  · unfold Daemon.command
    dsimp only
    rw [lastCmd, current, ite_self]

theorem staysAtSeed_iff {config : DaemonConfig} (rated : config.freq ≠ 0) (seed : Pose ℝ)
    (nowNs : Nat) (spurious : Bool) :
    StaysAtSeed config seed nowNs spurious ↔
      (safety : SafetyBox ℝ).Contains seed.pos ∧ (spurious = false ∨ seed = defaultPose) := by
  constructor
  · intro stays
    obtain ⟨command, member, streamed⟩ :=
      blindTick_streams config seed nowNs spurious
    have same := stays [] blindTick nothing_unpublished blindTick_unpublished
      (fun _ impossible => absurd impossible List.not_mem_nil) command member
    rw [same] at streamed
    cases spurious with
    | false =>
        exact ⟨contains_of_clampInto_self rated streamed.symm, Or.inl rfl⟩
    | true =>
        have default : seed = defaultPose := streamed.trans
          (SafetyBox.clampInto_self safety _ (SafetyBox.boxed_of_contains safety_contains_default))
        exact ⟨default ▸ safety_contains_default, Or.inr default⟩
  · rintro ⟨inside, start⟩ before after silent silent' unread command member
    have starting := (Daemon.seeded_starting seed nowNs).run config before silent unread
    obtain ⟨mailed, phase, _, quiet, current, lastCmd⟩ := starting.readSeed config spurious
    have from_seed : (if spurious then defaultPose else seed) = seed := by
      rcases start with read | default
      · rw [read]
        rfl
      · rw [← default, ite_self]
    rw [from_seed] at current lastCmd
    have held : (((Daemon.seeded seed nowNs).run config before).step config
        (.readSeed spurious)).AtSeed seed := by
      refine ⟨mailed, ?_, current, lastCmd, ?_⟩
      · rw [phase]
        intro impossible
        cases impossible
      · intro command member
        rw [quiet] at member
        cases member
    rw [Daemon.run_append, Daemon.run_cons] at member
    exact (held.run inside after silent').still command member

/-! ### Stale commands -/

/-- The last pose streamed, if there is one. -/
def Daemon.lastStreamed (daemon : Daemon ℝ) : Option (Pose ℝ) :=
  (daemon.ticks.filterMap id).getLast?.map RtCommand.pose

theorem Daemon.lastStreamed_none (daemon : Daemon ℝ) :
    ({ daemon with ticks := daemon.ticks ++ [none] } : Daemon ℝ).lastStreamed =
      daemon.lastStreamed := by
  unfold lastStreamed
  rw [List.filterMap_append]
  exact congrArg _ (congrArg _ (List.append_nil _))

theorem Daemon.lastStreamed_stream (config : DaemonConfig) (daemon : Daemon ℝ) (nowNs : Nat) :
    (daemon.stream config nowNs).lastStreamed = some (daemon.stream config nowNs).lastCmd := by
  unfold lastStreamed stream
  have streamed : (daemon.ticks ++ [some (daemon.command config nowNs)]).filterMap id =
      daemon.ticks.filterMap id ++ [daemon.command config nowNs] := List.filterMap_append
  rw [streamed, List.getLast?_concat]
  rfl

/-- What the task remembers is what it streamed last, and what it remembers at first has
not been streamed. -/
structure Daemon.Remembers (daemon : Daemon ℝ) : Prop where
  quiet : daemon.phase = .starting → daemon.ticks = []
  last : ∀ pose, daemon.lastStreamed = some pose → pose = daemon.lastCmd

theorem Daemon.seeded_remembers (seed : Pose ℝ) (nowNs : Nat) :
    (Daemon.seeded seed nowNs).Remembers where
  quiet _ := rfl
  last _ impossible := absurd impossible (Option.some_ne_none _).symm

section Memory

variable {config : DaemonConfig} {daemon : Daemon ℝ}

theorem Daemon.Remembers.step (remembers : daemon.Remembers) (event : DaemonEvent ℝ) :
    (daemon.step config event).Remembers := by
  obtain ⟨quiet, last⟩ := remembers
  have same : daemon.Remembers := ⟨quiet, last⟩
  cases event with
  | publish sp =>
      unfold Daemon.step
      dsimp only
      split
      · exact same
      · exact ⟨quiet, last⟩
  | stamp nowNs =>
      unfold Daemon.step
      dsimp only
      split
      · exact ⟨quiet, last⟩
      · exact same
  | requestStop => exact ⟨quiet, last⟩
  | readSeed spurious =>
      unfold Daemon.step
      dsimp only
      split
      · rename_i starting
        refine ⟨fun waiting => quiet starting, ?_⟩
        intro pose streamed
        unfold lastStreamed at streamed
        dsimp only at streamed
        rw [quiet starting] at streamed
        cases streamed
      · exact same
  | beginTick spurious =>
      unfold Daemon.step
      dsimp only
      split
      · rename_i waiting
        split
        · refine ⟨?_, ?_⟩
          · intro starting
            dsimp only at starting
            rw [waiting] at starting
            cases starting
          · intro pose streamed
            rw [lastStreamed_none] at streamed
            exact last pose streamed
        · refine ⟨?_, last⟩
          intro starting
          cases starting
      · exact same
  | finishTick nowNs =>
      unfold Daemon.step
      dsimp only
      split
      · refine ⟨?_, ?_⟩
        · intro starting
          cases starting
        · intro pose streamed
          rw [lastStreamed_stream] at streamed
          exact (Option.some.inj streamed).symm
      · exact same

theorem Daemon.Remembers.run (config : DaemonConfig) (events : List (DaemonEvent ℝ)) :
    ∀ {daemon : Daemon ℝ}, daemon.Remembers → (daemon.run config events).Remembers := by
  induction events with
  | nil => exact fun remembers => remembers
  | cons event events ih => exact fun remembers => ih (remembers.step event)

theorem Daemon.stale_command (config : DaemonConfig) (daemon : Daemon ℝ) {nowNs : Nat}
    (stale : Scalar.ofNat 100 < daemon.mailbox.ageMs nowNs) :
    (daemon.command config nowNs).pose =
      safety.clampInto daemon.lastCmd daemon.lastCmd config.dt := by
  unfold command
  dsimp only
  rw [if_pos (decide_eq_true stale)]

/-- A stale tick holds the pose the task remembers exactly when it lies in the box. -/
theorem Daemon.stale_command_eq_iff (rated : config.freq ≠ 0) {nowNs : Nat}
    (stale : Scalar.ofNat 100 < daemon.mailbox.ageMs nowNs) :
    (daemon.command config nowNs).pose = daemon.lastCmd ↔
      (safety : SafetyBox ℝ).Contains daemon.lastCmd.pos := by
  rw [Daemon.stale_command config daemon stale]
  constructor
  · exact contains_of_clampInto_self rated
  · intro inside
    exact SafetyBox.clampInto_self safety _ (SafetyBox.boxed_of_contains inside)

end Memory

/-- The task has started and what it remembers lies in the box. -/
structure Daemon.Inside (daemon : Daemon ℝ) : Prop where
  started : daemon.phase ≠ .starting
  lastCmd : (safety : SafetyBox ℝ).Contains daemon.lastCmd.pos

section Containment

variable {config : DaemonConfig} {daemon : Daemon ℝ}

theorem Daemon.Inside.step (positive : 0 < config.freq) (within : daemon.Inside)
    (event : DaemonEvent ℝ) : (daemon.step config event).Inside := by
  obtain ⟨started, lastCmd⟩ := within
  cases event with
  | publish sp =>
      unfold Daemon.step
      dsimp only
      split
      · exact ⟨started, lastCmd⟩
      · exact ⟨started, lastCmd⟩
  | stamp nowNs =>
      unfold Daemon.step
      dsimp only
      split
      · exact ⟨started, lastCmd⟩
      · exact ⟨started, lastCmd⟩
  | requestStop => exact ⟨started, lastCmd⟩
  | readSeed spurious =>
      unfold Daemon.step
      dsimp only
      rw [if_neg started]
      exact ⟨started, lastCmd⟩
  | beginTick spurious =>
      unfold Daemon.step
      dsimp only
      split
      · split
        · exact ⟨started, lastCmd⟩
        · refine ⟨?_, lastCmd⟩
          intro starting
          cases starting
      · exact ⟨started, lastCmd⟩
  | finishTick nowNs =>
      unfold Daemon.step
      dsimp only
      split
      · refine ⟨?_, clampInto_contains (config.cap_nonneg positive) lastCmd _⟩
        intro starting
        cases starting
      · exact ⟨started, lastCmd⟩

theorem Daemon.Inside.run (positive : 0 < config.freq) (events : List (DaemonEvent ℝ)) :
    ∀ {daemon : Daemon ℝ}, daemon.Inside → (daemon.run config events).Inside := by
  induction events with
  | nil => exact fun within => within
  | cons event events ih => exact fun within => ih (within.step positive event)

/-- Started at the seed or at the default, the task remembers nothing outside the box. -/
theorem Daemon.Starting.inside {seed : Pose ℝ} (positive : 0 < config.freq)
    (inside : (safety : SafetyBox ℝ).Contains seed.pos) (starting : daemon.Starting seed)
    (spurious : Bool) (after : List (DaemonEvent ℝ)) :
    (daemon.run config (.readSeed spurious :: after)).Inside := by
  obtain ⟨_, phase, _, _, _, lastCmd⟩ := starting.readSeed config spurious
  rw [Daemon.run_cons]
  apply Daemon.Inside.run positive after
  constructor
  · rw [phase]
    intro impossible
    cases impossible
  · rw [lastCmd]
    cases spurious with
    | true => exact safety_contains_default
    | false => exact inside

end Containment

/-- The tick that finishes now with stale commands repeats the pose streamed last. -/
def Daemon.HoldsStale (config : DaemonConfig) (daemon : Daemon ℝ) (nowNs : Nat) : Prop :=
  daemon.phase = .reading → Scalar.ofNat 100 < daemon.mailbox.ageMs nowNs →
    ∀ last, daemon.lastStreamed = some last → (daemon.command config nowNs).pose = last

theorem daemon_unmoved_iff {config : DaemonConfig} (rated : config.freq ≠ 0) (seed : Pose ℝ)
    (nowNs : Nat) :
    (∀ spurious, StaysAtSeed config seed nowNs spurious ↔
      (safety : SafetyBox ℝ).Contains seed.pos ∧ (spurious = false ∨ seed = defaultPose)) ∧
    (∀ events later, ((Daemon.seeded seed nowNs).run config events).HoldsStale config later ↔
      (((Daemon.seeded seed nowNs).run config events).phase = .reading →
        Scalar.ofNat 100 < ((Daemon.seeded seed nowNs).run config events).mailbox.ageMs later →
        ∀ last, ((Daemon.seeded seed nowNs).run config events).lastStreamed = some last →
          (safety : SafetyBox ℝ).Contains last.pos)) ∧
    (0 < config.freq → (safety : SafetyBox ℝ).Contains seed.pos →
      ∀ before after spurious later, Unpublished before →
        (∀ event ∈ before, ∀ other, event ≠ .readSeed other) →
        ((Daemon.seeded seed nowNs).run config
          (before ++ .readSeed spurious :: after)).HoldsStale config later) := by
  have holds_iff (events : List (DaemonEvent ℝ)) (later : Nat) :
      ((Daemon.seeded seed nowNs).run config events).HoldsStale config later ↔
        (((Daemon.seeded seed nowNs).run config events).phase = .reading →
          Scalar.ofNat 100 < ((Daemon.seeded seed nowNs).run config events).mailbox.ageMs later →
          ∀ last, ((Daemon.seeded seed nowNs).run config events).lastStreamed = some last →
            (safety : SafetyBox ℝ).Contains last.pos) := by
    have remembers := (Daemon.seeded_remembers seed nowNs).run config events
    refine forall₂_congr fun reading stale => forall₂_congr fun last streamed => ?_
    rw [remembers.last last streamed]
    exact Daemon.stale_command_eq_iff rated stale
  refine ⟨staysAtSeed_iff rated seed nowNs, holds_iff, ?_⟩
  intro positive inside before after spurious later silent unread
  rw [holds_iff]
  intro reading stale last streamed
  have remembers := (Daemon.seeded_remembers seed nowNs).run config
    (before ++ .readSeed spurious :: after)
  rw [remembers.last last streamed, Daemon.run_append]
  have starting := (Daemon.seeded_starting seed nowNs).run config before silent unread
  exact (starting.inside positive inside spurious after).lastCmd

noncomputable def tablePose : Pose ℝ := ⟨⟨1 / 2, 0, 1 / 4⟩, 1⟩

theorem daemon_unmoved_iff_table : StaysAtSeed { robotSn := "Rizon4" } tablePose 0 false := by
  have inside : (safety : SafetyBox ℝ).Contains tablePose.pos := by
    constructor <;> norm_num [safety, tablePose]
  exact ((daemon_unmoved_iff (by decide) tablePose 0).1 false).mpr ⟨inside, Or.inl rfl⟩

noncomputable def tuckedPose : Pose ℝ := ⟨⟨1 / 5, 0, 1 / 4⟩, 1⟩

/-- Seeded at it, the first tick already streams another pose. -/
theorem tucked_daemon_moves :
    ¬ ∀ command, some command ∈ ((Daemon.seeded tuckedPose 0).run { robotSn := "Rizon4" }
        ([] ++ .readSeed false :: blindTick)).ticks → command.pose = tuckedPose := by
  intro stays
  obtain ⟨command, member, streamed⟩ :=
    blindTick_streams { robotSn := "Rizon4" } tuckedPose 0 false
  rw [stays command member] at streamed
  have inside := contains_of_clampInto_self (by decide) streamed.symm
  have front := inside.x.1
  norm_num [safety, tuckedPose] at front

end FlexivControl
