/-
What a started loop streams before anything is published.

`start` seeds both targets, the filter and the command stamp, and leaves the space, the
staged chunk and the gripper slot as an earlier session left them. With the chunk and the
slot empty every pass follows the seed or holds the position it measures.
-/

import FlexivControl.Filter.Rotations
import FlexivControl.Loop.Holding
import FlexivControl.Loop.Publishing

namespace FlexivControl

open StepLimit Broadcast

section Passes

variable {K : Type} [Scalar K]

/-- Not a target, a chunk or a gripper command. -/
def Publication.Untargeted : Publication K → Prop
  | .safetyProfile _ => True
  | .halt => True
  | _ => False

/-- Nothing is published during the pass. -/
structure TickInput.Untargeted (input : TickInput K) : Prop where
  fetch : ∀ p ∈ input.beforeFetch, p.Untargeted
  advance : ∀ p ∈ input.beforeAdvance, p.Untargeted
  snapshot : ∀ p ∈ input.beforeSnapshot, p.Untargeted
  write : ∀ p ∈ input.beforeWrite, p.Untargeted

/-- The loop's target is this one, with no chunk staged and nothing for the gripper. -/
structure ReactiveServoLoop.Aims (aim : Aim K) (loop : ReactiveServoLoop K) : Prop where
  aim : loop.aim = aim
  gripper : loop.targetGripper = none

theorem ReactiveServoLoop.Aims.absorb {aim : Aim K} {gap : List (Publication K)}
    (untargeted : ∀ p ∈ gap, p.Untargeted) :
    ∀ {loop : ReactiveServoLoop K}, loop.Aims aim → (loop.absorb gap).Aims aim := by
  induction gap with
  | nil => exact fun aims => aims
  | cons p rest ih =>
      intro loop aims
      apply ih (fun q member => untargeted q (List.mem_cons_of_mem p member))
      have silent := untargeted p List.mem_cons_self
      cases p with
      | safetyProfile profile => exact ⟨aims.aim, aims.gripper⟩
      | halt => exact ⟨aims.aim, aims.gripper⟩
      | cartesianTarget pose gripper now => exact absurd silent id
      | jointTarget q now => exact absurd silent id
      | enqueueChunk chunk s now => exact absurd silent id

theorem ReactiveServoLoop.Aims.prepare {aim : Aim K} (unstaged : aim.chunkIter = none)
    {input : TickInput K} (untargeted : input.Untargeted) {loop : ReactiveServoLoop K}
    (aims : loop.Aims aim) (state : RobotState K) : (loop.prepare input state).Aims aim := by
  have read : ({ loop with latestState := some state } : ReactiveServoLoop K).Aims aim :=
    ⟨aims.aim, aims.gripper⟩
  have fetched := read.absorb untargeted.fetch
  have none : ({ loop with latestState := some state }.absorb input.beforeFetch).chunkIter =
      none := (congrArg Aim.chunkIter fetched.aim).trans unstaged
  unfold ReactiveServoLoop.prepare ReactiveServoLoop.fetchChunk
  dsimp only
  rw [none]
  exact (fetched.absorb untargeted.advance).absorb untargeted.snapshot

/-- A pass without publications takes its snapshot of the target and leaves it in place. -/
theorem ReactiveServoLoop.Aims.arrive {aim : Aim K} (unstaged : aim.chunkIter = none)
    {input : TickInput K} (untargeted : input.Untargeted) {loop : ReactiveServoLoop K}
    (aims : loop.Aims aim) :
    (loop.arrive input).2.Aims aim ∧ ∀ snap, (loop.arrive input).1 = .ok snap →
      snap.cartesian = aim.cartesian ∧ snap.targetPose = aim.targetPose ∧
        snap.targetQ = aim.targetQ ∧ snap.gripper = none := by
  unfold ReactiveServoLoop.arrive
  cases input.state with
  | error e => exact ⟨aims, fun snap impossible => by cases impossible⟩
  | ok state =>
      have prepared := aims.prepare unstaged untargeted state
      dsimp only
      cases input.inFault with
      | error e => exact ⟨prepared, fun snap impossible => by cases impossible⟩
      | ok faulted =>
          constructor
          · apply ReactiveServoLoop.Aims.absorb untargeted.write
            exact ⟨prepared.aim, prepared.gripper⟩
          · intro snap same
            cases same
            exact ⟨congrArg Aim.cartesian prepared.aim, congrArg Aim.targetPose prepared.aim,
              congrArg Aim.targetQ prepared.aim, prepared.gripper⟩

/-- Without a command in its slot, the gripper is not moved and gets none. -/
def Gripless {α : Type} (x : LoopM K α) : Prop :=
  ∀ pass, (∀ cmd, BackendCall.moveGripper cmd ∉ pass.calls) → pass.loop.targetGripper = none →
    (∀ cmd, BackendCall.moveGripper cmd ∉ (x pass).2.calls) ∧
      (x pass).2.loop.targetGripper = none

theorem gripless_pure {α : Type} (a : α) : Gripless (pure a : LoopM K α) :=
  fun _ unmoved empty => ⟨unmoved, empty⟩

theorem gripless_command (input : TickInput K) {call : BackendCall K}
    (other : ∀ cmd, call ≠ .moveGripper cmd) : Gripless (command input call) := by
  intro pass unmoved empty
  have added : ∀ cmd, BackendCall.moveGripper cmd ∉ pass.calls ++ [call] := by
    intro cmd member
    rcases List.mem_append.mp member with before | last
    · exact unmoved cmd before
    · exact other cmd (List.mem_singleton.mp last).symm
  unfold command
  dsimp only
  split
  · exact ⟨added, empty⟩
  · exact ⟨added, empty⟩

theorem gripless_update {f : ReactiveServoLoop K → ReactiveServoLoop K}
    (kept : ∀ loop, (f loop).targetGripper = loop.targetGripper) : Gripless (update f) :=
  fun pass unmoved empty => ⟨unmoved, (kept pass.loop).trans empty⟩

theorem Gripless.bind {α β : Type} {x : LoopM K α} {f : α → LoopM K β} (first : Gripless x)
    (rest : ∀ a, Gripless (f a)) : Gripless (x >>= f) := by
  intro pass unmoved empty
  obtain ⟨unmoved', empty'⟩ := first pass unmoved empty
  rw [LoopM.bind_apply]
  cases ran : x pass with
  | mk out pass' =>
      rw [ran] at unmoved' empty'
      cases out with
      | error e => exact ⟨unmoved', empty'⟩
      | ok a => exact rest a pass' unmoved' empty'

theorem gripless_protectiveStop (input : TickInput K) (status : SafetyStatus)
    (reason : StopReason) : Gripless (protectiveStop input status reason) := by
  apply (gripless_command input _).bind
  · exact fun _ => gripless_update fun _ => rfl
  · intro cmd same
    cases same

theorem gripless_ensureStreamMode (input : TickInput K) (state : RobotState K) (robot : Robot K)
    (cartesian : Bool) : Gripless (ensureStreamMode input state robot cartesian) := by
  unfold ensureStreamMode
  split
  · split
    · exact gripless_pure ()
    · exact gripless_command input fun cmd same => by cases same
  · split
    · exact gripless_command input fun cmd same => by cases same
    · exact gripless_pure ()

theorem gripless_holdPosition (input : TickInput K) (state : RobotState K) (robot : Robot K)
    (cartesian : Bool) : Gripless (holdPosition input state robot cartesian) := by
  unfold holdPosition
  apply (gripless_update _).bind
  · intro _
    apply (gripless_update _).bind
    · intro _
      apply (gripless_ensureStreamMode input state robot cartesian).bind
      intro _
      split
      · exact gripless_command input fun cmd same => by cases same
      · exact gripless_command input fun cmd same => by cases same
    · exact fun _ => rfl
  · exact fun _ => rfl

theorem gripless_liveCartesian (input : TickInput K) (state : RobotState K) (robot : Robot K)
    (target : Pose K) : Gripless (liveCartesian input state robot target none) := by
  unfold liveCartesian
  cases robot.filter.filterCartesian target state with
  | mk sr filter =>
      dsimp only
      apply (gripless_update _).bind
      · intro _
        split
        · apply (gripless_ensureStreamMode input state robot true).bind
          intro _
          apply (gripless_command input _).bind
          · intro _
            apply (gripless_pure ()).bind
            intro _
            exact gripless_update fun _ => rfl
          · intro cmd same
            cases same
        · exact gripless_protectiveStop _ _ _
      · exact fun _ => rfl

theorem gripless_liveJoint (input : TickInput K) (state : RobotState K) (robot : Robot K)
    (target : List K) : Gripless (liveJoint input state robot target) := by
  unfold liveJoint
  split
  · exact fun _ unmoved empty => ⟨unmoved, empty⟩
  · apply (gripless_update _).bind
    · intro _
      split
      · apply (gripless_ensureStreamMode input state robot false).bind
        intro _
        apply (gripless_command input _).bind
        · exact fun _ => gripless_update fun _ => rfl
        · intro cmd same
          cases same
      · exact gripless_protectiveStop _ _ _
    · exact fun _ => rfl

theorem gripless_writeSection (input : TickInput K) {snap : Snapshot K} (empty : snap.gripper = none)
    (robot : Robot K) : Gripless (writeSection input snap robot) := by
  unfold writeSection
  dsimp only
  rw [empty]
  split
  · exact gripless_protectiveStop _ _ _
  · split
    · exact gripless_protectiveStop _ _ _
    · split
      · split
        · exact gripless_protectiveStop _ _ _
        · exact gripless_holdPosition _ _ _ _
      · split
        · exact gripless_liveCartesian _ _ _ _
        · exact gripless_liveJoint _ _ _ _
        · exact gripless_pure ()

theorem diagnose_gripper (loop : ReactiveServoLoop K) (input : TickInput K) :
    (loop.diagnose input).targetGripper = loop.targetGripper := by
  unfold ReactiveServoLoop.diagnose
  dsimp only
  split <;> rfl

/-- A pass without publications moves no gripper and leaves the target as it was. -/
theorem Tick.keeps_aims {t : Tick K} {aim : Aim K} (unstaged : aim.chunkIter = none)
    (untargeted : t.input.Untargeted) (aims : t.before.Aims aim) :
    (∀ cmd, BackendCall.moveGripper cmd ∉ t.result.calls) ∧ t.result.loop.Aims aim := by
  obtain ⟨arrived, snapped⟩ := aims.arrive unstaged untargeted
  have sameAim : t.result.loop.aim = aim := t.result_aim.trans arrived.aim
  unfold Tick.result ReactiveServoLoop.tick at *
  cases arrival : t.before.arrive t.input with
  | mk out loop =>
      rw [arrival] at arrived snapped sameAim
      cases out with
      | error e =>
          refine ⟨fun cmd member => ?_, sameAim, arrived.gripper⟩
          cases List.mem_singleton.mp member
      | ok snap =>
          obtain ⟨_, _, _, empty⟩ := snapped snap rfl
          dsimp only at sameAim ⊢
          obtain ⟨unmoved, kept⟩ := gripless_writeSection t.input empty loop.robot { loop := loop }
            (fun cmd => List.not_mem_nil) arrived.gripper
          cases ran : writeSection t.input snap loop.robot { loop := loop } with
          | mk raised pass =>
              rw [ran] at unmoved kept sameAim
              cases raised with
              | error e =>
                  refine ⟨fun cmd member => ?_, sameAim, kept⟩
                  rcases List.mem_append.mp member with before | last
                  · exact unmoved cmd before
                  · cases List.mem_singleton.mp last
              | ok _ => exact ⟨unmoved, sameAim, (diagnose_gripper _ _).trans kept⟩

end Passes

def SafetyProfile.Admits (p : SafetyProfile ℝ) (cartesian : Bool) (seed : RobotState ℝ) : Prop :=
  if cartesian then
    p.accepts seed.tcpPose.pos ∧ 0 ≤ p.maxPoseJumpAngular ∧ 0 ≤ p.maxAngularSpeed
  else p.limitedJoints seed.q = .ok seed.q

structure SafetyFilter.SeededAt (f : SafetyFilter ℝ) (seed : RobotState ℝ) : Prop where
  pose : f.prevPose = some seed.tcpPose
  q : f.prevQ = some seed.q
  rest : f.prevLinVel = some 0

theorem limit_zero {E : Type*} [NormedAddCommGroup E] [NormedSpace ℝ E] (threshold cap floor : ℝ) :
    limit threshold cap floor (0 : E) = 0 := by
  unfold limit
  split
  · exact smul_zero _
  · rfl

theorem limitLinearAccel_still (p : SafetyProfile ℝ) (dt : ℝ) {ref : Pose ℝ} {draft : Draft ℝ}
    (still : draft.target.pos = ref.pos) :
    (limitLinearAccel p dt (some 0) ref draft).1.target.pos = ref.pos ∧
      (limitLinearAccel p dt (some 0) ref draft).2 = 0 := by
  have none : (draft.target.pos - ref.pos) / Scalar.greater dt eps = 0 := by
    apply Vec3.toE_injective
    rw [still, Vec3.toE_div, Vec3.toE_sub, sub_self, smul_zero, Vec3.toE_zero]
  unfold limitLinearAccel
  dsimp only
  rw [none, Option.getD_some]
  split
  · exact ⟨still, rfl⟩
  · split
    · have unchanged (scale : ℝ) :
          (0 : Vec3 ℝ) + ((0 : Vec3 ℝ) - 0) * scale = (0 : Vec3 ℝ) := by
        apply Vec3.toE_injective
        rw [Vec3.toE_add, Vec3.toE_mul, Vec3.toE_sub, sub_self, smul_zero, Vec3.toE_zero, add_zero]
      refine ⟨?_, unchanged _⟩
      rw [unchanged]
      apply Vec3.toE_injective
      rw [Draft.clip, Vec3.toE_add, Vec3.toE_mul, Vec3.toE_zero, smul_zero, add_zero]
    · exact ⟨still, rfl⟩

theorem SafetyFilter.filterCartesian_seeded {f f' : SafetyFilter ℝ} {seed : RobotState ℝ}
    (seeded : f.SeededAt seed) (admits : f.p.Admits true seed) {state : RobotState ℝ}
    {cap : Option (Wrench ℝ)} {sr : SafetyResult ℝ} {pose : Pose ℝ}
    (passed : f.filterCartesian seed.tcpPose state cap = (sr, f')) (found : sr.pose = some pose) :
    pose = seed.tcpPose ∧ f'.SeededAt seed := by
  obtain ⟨accepted, turn, spin⟩ := admits
  let asked : Draft ℝ := { target := seed.tcpPose, clipped := false, reasons := [] }
  have boxed : limitWorkspace f.p asked = some asked := by
    unfold limitWorkspace
    exact if_pos accepted
  rcases f.filterCartesian_cases seed.tcpPose state cap with
    ⟨reason, rejected⟩ | ⟨draft, _, limited, result⟩
  · rw [rejected, Prod.mk.injEq] at passed
    rw [← passed.1] at found
    cases found
  · rw [boxed, Option.some.injEq] at limited
    dsimp only at result
    rw [← limited, seeded.pose, Option.getD_some, seeded.rest] at result
    let moved := limitMotion f.p f.dt seed.tcpPose asked
    have still : moved.target.pos = seed.tcpPose.pos := by
      have stepped := limitMotion_displacement f.p f.dt seed.tcpPose asked
      have short : displacement seed.tcpPose asked = 0 := sub_self _
      rw [short, limit_zero, limit_zero] at stepped
      exact Vec3.toE_injective (sub_eq_zero.mp stepped)
    have facing : moved.target.quat = seed.tcpPose.quat := by
      rw [limitMotion_quat]
      unfold limitTurn
      dsimp only
      rw [quatAngle_of_aligned rfl, if_neg (not_lt.mpr turn), quatAngle_of_aligned rfl, zero_div,
        if_neg (not_lt.mpr spin)]
    obtain ⟨place, slow⟩ := limitLinearAccel_still f.p f.dt still
    rw [result, Prod.mk.injEq] at passed
    obtain ⟨same, left⟩ := passed
    rw [← same, Option.some.injEq] at found
    have pose_eq : pose = seed.tcpPose := by
      rw [← found]
      exact Pose.ext place ((limitLinearAccel_quat _ _ _ _ _).trans facing)
    refine ⟨pose_eq, ?_⟩
    subst left
    exact ⟨congrArg some (found.trans pose_eq), seeded.q, congrArg some slow⟩

theorem clampStep_none (maxStep : ℝ) : clampStep maxStep 0 = 0 := by
  unfold clampStep Scalar.sign
  rw [if_neg (lt_irrefl 0), if_neg (lt_irrefl 0), zero_mul, ite_self]

theorem SafetyFilter.filterJoint_seeded {f f' : SafetyFilter ℝ} {seed : RobotState ℝ}
    (seeded : f.SeededAt seed) (admits : f.p.Admits false seed) {state : RobotState ℝ}
    {sr : SafetyResult ℝ} {q : List ℝ} (passed : f.filterJoint seed.q state = .ok (sr, f'))
    (found : sr.q = some q) : q = seed.q ∧ f'.SeededAt seed := by
  obtain ⟨limited, step, q', limit, stepped, _, found', left, moved⟩ := filterJoint_ok passed
  rw [found, Option.some.injEq] at found'
  have at_seed : limited = seed.q := Except.ok.inj (limit.symm.trans admits)
  have same : q = seed.q := by
    rw [found']
    rcases moved with ⟨reached, _⟩ | ⟨_, saturated⟩
    · exact reached.trans at_seed
    · rw [seeded.q, Option.getD_some] at stepped saturated
      rw [at_seed, broadcast_of_length_eq _ rfl] at stepped
      have zeros : step.map (clampStep (maxJointStep f.p f.dt)) =
          seed.q.map fun _ => (0 : ℝ) := by
        rw [← Except.ok.inj stepped, List.zipWith_self, List.map_map]
        apply List.map_congr_left
        intro x _
        change clampStep _ (x - x) = 0
        rw [sub_self, clampStep_none]
      rw [zeros, broadcast_of_length_eq _ (List.length_map _).symm] at saturated
      rw [← Except.ok.inj saturated, List.zipWith_map_right, List.zipWith_self]
      exact (List.map_congr_left fun x _ => add_zero x).trans (List.map_id _)
  refine ⟨same, ?_⟩
  rw [left, ← found', same]
  exact ⟨seeded.pose, rfl, seeded.rest⟩

/-! ### Passes after a start -/

def ReactiveServoLoop.setpointAt (loop : ReactiveServoLoop ℝ) (state : RobotState ℝ) :
    Setpoint ℝ :=
  if loop.cartesian then .cartesian state.tcpPose else .joint state.q

/-- What the filter in force makes of the seed in this space. -/
def Tick.Follows (t : Tick ℝ) (cartesian : Bool) (seed : RobotState ℝ) (sp : Setpoint ℝ) : Prop :=
  ∃ snap loop, t.atWrite = some (snap, loop) ∧
    if cartesian then ∃ pose, sp = .cartesian pose ∧
      (loop.filter.filterCartesian seed.tcpPose snap.state).1.pose = some pose
    else ∃ q sr filter, sp = .joint q ∧
      loop.filter.filterJoint seed.q snap.state = .ok (sr, filter) ∧ sr.q = some q

/-- The pass does not hold, and the limits in force leave the seed as it is. -/
def Tick.Direct (t : Tick ℝ) (cartesian : Bool) (seed : RobotState ℝ) : Prop :=
  t.holds = false ∧ ∀ snap loop, t.atWrite = some (snap, loop) →
    loop.filter.p.Admits cartesian seed

def ReactiveServoLoop.seedAim (loop : ReactiveServoLoop ℝ) (seed : RobotState ℝ) : Aim ℝ :=
  ⟨loop.cartesian, some seed.tcpPose, some seed.q, none⟩

section Seeded

variable {loop : ReactiveServoLoop ℝ} {seed : RobotState ℝ} {t : Tick ℝ}

theorem Tick.atWrite_aims (untargeted : t.input.Untargeted)
    (aims : t.before.Aims (loop.seedAim seed)) {snap : Snapshot ℝ} {written : ReactiveServoLoop ℝ}
    (at_write : t.atWrite = some (snap, written)) :
    snap.cartesian = loop.cartesian ∧ snap.targetPose = some seed.tcpPose ∧
      snap.targetQ = some seed.q := by
  have arrived : (t.before.arrive t.input).1 = .ok snap := by
    unfold Tick.atWrite at at_write
    cases arrival : t.before.arrive t.input with
    | mk out loop =>
        rw [arrival] at at_write
        cases out with
        | error e => cases at_write
        | ok snap' =>
            cases at_write
            rfl
  obtain ⟨space, pose, q, _⟩ := (aims.arrive rfl untargeted).2 snap arrived
  exact ⟨space, pose, q⟩

theorem Tick.streams_seed (untargeted : t.input.Untargeted)
    (aims : t.before.Aims (loop.seedAim seed)) {sp : Setpoint ℝ} (streamed : t.streamed = some sp) :
    (t.holds = true → ∃ state, t.measured = some state ∧ sp = loop.setpointAt state) ∧
      (t.holds = false → t.Follows loop.cartesian seed sp) := by
  rcases t.result_spec with ⟨silent, _⟩ | ⟨snap, written, at_write, wrote⟩
  · rw [silent] at streamed
    cases streamed
  · have held : t.holds = snap.holds written.filter := by
      unfold Tick.holds
      rw [at_write]
    have measured : t.measured = some snap.state := by
      unfold Tick.measured
      rw [at_write]
      rfl
    obtain ⟨space, pose, q⟩ := t.atWrite_aims untargeted aims at_write
    generalize t.result.loop.filter = left at wrote
    rw [streamed] at wrote
    rw [held]
    cases wrote with
    | heldCartesian holds inSpace =>
        refine ⟨fun _ => ⟨snap.state, measured, ?_⟩, fun impossible => ?_⟩
        · rw [ReactiveServoLoop.setpointAt, if_pos (space.symm.trans inSpace)]
        · rw [holds] at impossible
          cases impossible
    | heldJoint holds inSpace =>
        refine ⟨fun _ => ⟨snap.state, measured, ?_⟩, fun impossible => ?_⟩
        · rw [ReactiveServoLoop.setpointAt, if_neg (ne_true_of_eq_false (space.symm.trans inSpace))]
        · rw [holds] at impossible
          cases impossible
    | liveCartesian follows inSpace published passed ok found =>
        refine ⟨fun impossible => ?_, fun _ => ⟨snap, written, at_write, ?_⟩⟩
        · rw [Snapshot.holds_of_follows follows] at impossible
          cases impossible
        · have target := Option.some.inj (published.symm.trans pose)
          rw [if_pos (space.symm.trans inSpace), ← target, passed]
          exact ⟨_, rfl, found⟩
    | liveJoint follows inSpace published passed ok found =>
        refine ⟨fun impossible => ?_, fun _ => ⟨snap, written, at_write, ?_⟩⟩
        · rw [Snapshot.holds_of_follows follows] at impossible
          cases impossible
        · have target := Option.some.inj (published.symm.trans q)
          rw [if_neg (ne_true_of_eq_false (space.symm.trans inSpace)), ← target]
          exact ⟨_, _, _, rfl, passed, found⟩

theorem SafetyFilter.SeededAt.setProfile {f : SafetyFilter ℝ} (seeded : f.SeededAt seed)
    (profile : SafetyProfile ℝ) : (f.setProfile profile).SeededAt seed :=
  ⟨seeded.pose, seeded.q, seeded.rest⟩

theorem Tick.direct_seed (untargeted : t.input.Untargeted)
    (aims : t.before.Aims (loop.seedAim seed)) (seeded : t.before.filter.SeededAt seed)
    (direct : t.Direct loop.cartesian seed) :
    (∀ sp, t.streamed = some sp → sp = loop.setpointAt seed) ∧
      (t.result.loop.running = true → t.result.loop.filter.SeededAt seed) := by
  rcases t.result_spec with ⟨silent, ended⟩ | ⟨snap, written, at_write, wrote⟩
  · rw [silent, ended]
    constructor
    · intro sp impossible
      cases impossible
    · intro impossible
      cases impossible
  · obtain ⟨profile, same⟩ := t.atWrite_filter at_write
    have here : written.filter.SeededAt seed := same ▸ seeded.setProfile profile
    have admits := direct.2 snap written at_write
    have idle : snap.holds written.filter = false := by
      have flies := direct.1
      unfold Tick.holds at flies
      rw [at_write] at flies
      exact flies
    obtain ⟨space, pose, q⟩ := t.atWrite_aims untargeted aims at_write
    generalize t.result.loop.filter = left at wrote
    generalize t.streamed = streamed at wrote
    cases wrote with
    | quiet _ =>
        refine ⟨fun sp impossible => ?_, fun _ => here⟩
        cases impossible
    | heldCartesian holds _ =>
        rw [idle] at holds
        cases holds
    | heldJoint holds _ =>
        rw [idle] at holds
        cases holds
    | liveCartesian follows inSpace published passed ok found =>
        have inLoop := space.symm.trans inSpace
        rw [inLoop] at admits
        rw [← Option.some.inj (pose.symm.trans published)] at passed
        obtain ⟨stayed, kept⟩ := SafetyFilter.filterCartesian_seeded here admits passed found
        refine ⟨fun sp sent => ?_, fun _ => kept⟩
        rw [← Option.some.inj sent, ReactiveServoLoop.setpointAt, if_pos inLoop, stayed]
    | liveJoint follows inSpace published passed ok found =>
        have inLoop := space.symm.trans inSpace
        rw [inLoop] at admits
        rw [← Option.some.inj (q.symm.trans published)] at passed
        obtain ⟨stayed, kept⟩ := SafetyFilter.filterJoint_seeded here admits passed found
        refine ⟨fun sp sent => ?_, fun _ => kept⟩
        rw [← Option.some.inj sent, ReactiveServoLoop.setpointAt,
          if_neg (ne_true_of_eq_false inLoop), stayed]

end Seeded

/-- The target is the seed; as long as the passes so far were direct, so is the filter's
reference. -/
structure ReactiveServoLoop.OnSeed (loop : ReactiveServoLoop ℝ) (seed : RobotState ℝ) (direct : Prop)
    (current : ReactiveServoLoop ℝ) : Prop where
  aims : current.Aims (loop.seedAim seed)
  stands : direct → current.running = true → current.filter.SeededAt seed

theorem Tick.keeps_onSeed {loop : ReactiveServoLoop ℝ} {seed : RobotState ℝ} {t : Tick ℝ}
    {direct : Prop} (untargeted : t.input.Untargeted) (running : t.before.running = true)
    (onSeed : loop.OnSeed seed direct t.before) :
    loop.OnSeed seed (direct ∧ t.Direct loop.cartesian seed) t.result.loop where
  aims := (t.keeps_aims rfl untargeted onSeed.aims).2
  stands both := (t.direct_seed untargeted onSeed.aims (onSeed.stands both.1 running) both.2).2

theorem allDirect_foldl {cartesian : Bool} {seed : RobotState ℝ} (pre : List (Tick ℝ)) :
    ∀ {direct : Prop}, direct → (∀ u ∈ pre, u.Direct cartesian seed) →
      pre.foldl (fun direct u => direct ∧ u.Direct cartesian seed) direct := by
  induction pre with
  | nil => exact fun direct _ => direct
  | cons u rest ih =>
      intro direct holds every
      exact ih ⟨holds, every u List.mem_cons_self⟩
        fun v member => every v (List.mem_cons_of_mem u member)

theorem ReactiveServoLoop.start_seeds {loop : ReactiveServoLoop ℝ} (stopped : loop.running = false)
    (unstaged : loop.chunkIter = none) (empty : loop.targetGripper = none)
    (first second : RobotState ℝ) (now perf : ℝ) :
    (loop.start first second now perf).2.Aims (loop.seedAim (seedState first second)) ∧
      (loop.start first second now perf).2.filter.SeededAt (seedState first second) := by
  unfold ReactiveServoLoop.start seedState
  rw [stopped, if_neg Bool.false_ne_true]
  split
  · exact ⟨⟨congrArg (Aim.mk _ _ _) unstaged, empty⟩, ⟨rfl, rfl, rfl⟩⟩
  · exact ⟨⟨congrArg (Aim.mk _ _ _) unstaged, empty⟩, ⟨rfl, rfl, rfl⟩⟩

/-- Started with no chunk staged and nothing for the gripper, and until something is
published, the loop moves no gripper; a pass that holds streams the state it measures, any
other what the filter makes of the seed, which is the seed itself as long as every pass so
far was direct. -/
theorem start_holds_seed (loop : ReactiveServoLoop ℝ) (stopped : loop.running = false)
    (unstaged : loop.chunkIter = none) (empty : loop.targetGripper = none)
    (first second : RobotState ℝ) (now perf : ℝ) (inputs : List (TickInput ℝ))
    (untargeted : ∀ input ∈ inputs, input.Untargeted) :
    let seed := seedState first second
    let ticks := (loop.start first second now perf).2.runInner inputs
    (∀ t ∈ ticks, (∀ cmd, BackendCall.moveGripper cmd ∉ t.result.calls) ∧
      ∀ sp, t.streamed = some sp →
        (t.holds = true → ∃ state, t.measured = some state ∧ sp = loop.setpointAt state) ∧
          (t.holds = false → t.Follows loop.cartesian seed sp)) ∧
    ∀ pre t post, ticks = pre ++ t :: post → (∀ u ∈ pre ++ [t], u.Direct loop.cartesian seed) →
      ∀ sp, t.streamed = some sp → sp = loop.setpointAt seed := by
  intro seed ticks
  obtain ⟨aims, seeded⟩ := ReactiveServoLoop.start_seeds stopped unstaged empty first second now perf
  constructor
  · intro t member
    obtain ⟨inside, _, aimed⟩ := runInner_invariant aims
      (fun t inside _ aimed => (t.keeps_aims rfl (untargeted t.input inside) aimed).2) t member
    exact ⟨(t.keeps_aims rfl (untargeted t.input inside) aimed).1,
      fun sp streamed => t.streams_seed (untargeted t.input inside) aimed streamed⟩
  · intro pre t post split direct sp streamed
    have began : loop.OnSeed seed True (loop.start first second now perf).2 :=
      ⟨aims, fun _ _ => seeded⟩
    obtain ⟨inside, running, onSeed⟩ := runInner_accumulates
      (fun so_far u => so_far ∧ u.Direct loop.cartesian seed) inputs True began
      (fun u so_far _ inside running onSeed =>
        u.keeps_onSeed (untargeted u.input inside) running onSeed) pre t post split
    have earlier := allDirect_foldl pre trivial
      fun u member => direct u (List.mem_append_left [t] member)
    exact (t.direct_seed (untargeted t.input inside) onSeed.aims (onSeed.stands earlier running)
      (direct t (List.mem_append_right pre List.mem_cons_self))).1 sp streamed

theorem waited_once : (tabletopLoop.start hovering hovering 0 0).2.runInner [waiting (1 / 100)] =
    [⟨(tabletopLoop.start hovering hovering 0 0).2, waiting (1 / 100)⟩] := by
  unfold ReactiveServoLoop.runInner
  exact if_pos tabletopLoop_waits.running

/-- The tabletop loop, started and left alone for a second: the pass follows the rule. -/
theorem start_holds_seed_waiting :
    ∃ t : Tick ℝ, (tabletopLoop.start hovering hovering 0 0).2.runInner [waiting (1 / 100)] = [t] ∧
      (∀ cmd, BackendCall.moveGripper cmd ∉ t.result.calls) ∧
        ∀ sp, t.streamed = some sp →
          (t.holds = true → ∃ state, t.measured = some state ∧ sp = tabletopLoop.setpointAt state) ∧
            (t.holds = false → t.Follows tabletopLoop.cartesian hovering sp) := by
  have untargeted : ∀ input ∈ [waiting (1 / 100)], input.Untargeted := by
    intro input member
    rw [List.mem_singleton.mp member]
    have nothing : ∀ p ∈ ([] : List (Publication ℝ)), p.Untargeted :=
      fun p impossible => absurd impossible List.not_mem_nil
    exact ⟨nothing, nothing, nothing, nothing⟩
  refine ⟨_, waited_once, ?_⟩
  exact (start_holds_seed tabletopLoop rfl rfl rfl hovering hovering 0 0 [waiting (1 / 100)]
    untargeted).1 _ (waited_once ▸ List.mem_singleton_self _)

/-- Moved by a centimetre meanwhile, the arm is held where it is measured, not at the seed. -/
theorem started_loop_leaves_seed :
    ¬ ∀ t ∈ (tabletopLoop.start hovering hovering 0 0).2.runInner [waiting (1 / 100)],
      ∀ sp, t.streamed = some sp → sp = .cartesian hovering.tcpPose := by
  intro stays
  obtain ⟨hold, measured, _⟩ := waiting_spec tabletopLoop_waits (1 / 100)
  obtain ⟨state, found, streamed⟩ := hold.streams
  rw [waited_once] at stays
  have same := stays _ (List.mem_singleton_self _) _ streamed
  rw [measured, Option.some.injEq] at found
  rw [← found, Setpoint.cartesian.injEq] at same
  have moved := congrArg (·.pos.x) same
  norm_num [hoveringAt, hovering, overTable, onLine] at moved

end FlexivControl
