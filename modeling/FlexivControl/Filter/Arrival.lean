/-
A constant target, call after call.

Each call takes one limited step along the same segment, so the distances travelled add up
until the target is reached. The floor under the scale's divisor must not bite on the way:
below it a call travels less than a whole step.
-/

import FlexivControl.Filter.Rotations

namespace FlexivControl

open StepLimit

noncomputable def alongSegment (start goal : Vec3 ℝ) (distance : ℝ) : Vec3 ℝ :=
  start + (goal - start) * (distance / (goal - start).norm)

/-- No call on the way scales by the floor instead of the length: the distances left that
are still above one step are above the floor, and so is the jump cap where the speed cap
scales what it left. -/
def FloorIdle (p : SafetyProfile ℝ) (dt distance : ℝ) : Prop :=
  distance ≤ linearStep p dt ∨
    (p.maxPoseJumpLinear ≤ p.maxLinearSpeed * dt ∨ eps ≤ p.maxPoseJumpLinear) ∧
      ∀ k : ℕ, linearStep p dt < distance - k * linearStep p dt →
        eps ≤ distance - k * linearStep p dt

theorem alongSegment_toE (start goal : Vec3 ℝ) (distance : ℝ) :
    (alongSegment start goal distance).toE =
      start.toE + (distance / ‖goal.toE - start.toE‖) • (goal.toE - start.toE) := by
  rw [alongSegment, Vec3.toE_add, Vec3.toE_mul, Vec3.toE_sub, ← Vec3.norm_toE, Vec3.toE_sub]

theorem alongSegment_zero (start goal : Vec3 ℝ) : alongSegment start goal 0 = start := by
  apply Vec3.toE_injective
  rw [alongSegment_toE, zero_div, zero_smul, add_zero]

theorem alongSegment_last (start goal : Vec3 ℝ) :
    alongSegment start goal (goal - start).norm = goal := by
  apply Vec3.toE_injective
  rw [alongSegment_toE, ← Vec3.norm_toE, Vec3.toE_sub]
  by_cases apart : goal.toE - start.toE = 0
  · rw [apart, smul_zero, add_zero]
    exact (sub_eq_zero.mp apart).symm
  · rw [div_self (norm_ne_zero_iff.mpr apart), one_smul, add_sub_cancel]

theorem linearStep_pos {p : SafetyProfile ℝ} (caps : p.PositiveCaps) {dt : ℝ}
    (positive : 0 < dt) : 0 < linearStep p dt :=
  lt_min caps.poseJumpLinear (mul_pos caps.linearSpeed positive)

theorem limit_both {p : SafetyProfile ℝ} (caps : p.PositiveCaps) {dt : ℝ}
    {step : EuclideanSpace ℝ (Fin 3)}
    (idle : p.maxPoseJumpLinear < ‖step‖ →
      p.maxPoseJumpLinear ≤ p.maxLinearSpeed * dt ∨ eps ≤ p.maxPoseJumpLinear) :
    limit (p.maxLinearSpeed * dt) (p.maxLinearSpeed * dt) eps
        (limit p.maxPoseJumpLinear p.maxPoseJumpLinear eps step) =
      limit (linearStep p dt) (linearStep p dt) eps step := by
  rcases le_total p.maxPoseJumpLinear (p.maxLinearSpeed * dt) with jump | speed
  · rw [linearStep, min_eq_left jump]
    exact limit_limit_of_le eps caps.poseJumpLinear.le jump step
  · rw [linearStep, min_eq_right speed]
    by_cases long : p.maxPoseJumpLinear < ‖step‖
    · rcases idle long with jump | above
      · rw [le_antisymm jump speed]
        exact limit_limit_of_le eps (le_antisymm jump speed ▸ caps.poseJumpLinear.le) le_rfl step
      · exact limit_limit caps.poseJumpLinear above speed step
    · rw [limit_of_le (not_lt.mp long)]

theorem SafetyFilter.filterCartesian_toward {f : SafetyFilter ℝ} (caps : f.p.PositiveCaps)
    (uncapped : f.p.maxLinearAccel = none) (slow : eps ≤ f.dt) {call : FilterCall ℝ}
    (light : exceeds call.state.wrench (call.cap.getD f.p.maxContactWrench) = false)
    (inside : f.p.contains call.target.pos) {ref : Pose ℝ}
    (at_ref : f.prevPose.getD call.state.tcpPose = ref)
    (still : quatAngle ref.quat call.target.quat = 0) :
    ∃ pose clipped reasons f', f.filterCartesian call.target call.state call.cap =
        ({ ok := true, pose := some pose, clipped := clipped, clipReasons := reasons }, f') ∧
      f'.p = f.p ∧ f'.dt = f.dt ∧ f'.prevPose = some pose ∧ pose.quat = call.target.quat ∧
      pose.pos.toE = ref.pos.toE + limit (f.p.maxLinearSpeed * f.dt) (f.p.maxLinearSpeed * f.dt)
        eps (limit f.p.maxPoseJumpLinear f.p.maxPoseJumpLinear eps
          (call.target.pos.toE - ref.pos.toE)) ∧
      (‖call.target.pos.toE - ref.pos.toE‖ ≤ linearStep f.p f.dt → clipped = false) := by
  let asked : Draft ℝ := { target := call.target, clipped := false, reasons := [] }
  have passed := filterCartesian_of_limited light (limitWorkspace_of_contains inside)
  dsimp only at passed
  have plain : (limitLinearAccel f.p f.dt f.prevLinVel ref (limitMotion f.p f.dt ref asked)).1 =
      limitMotion f.p f.dt ref asked := by
    simp only [limitLinearAccel, uncapped]
  rw [at_ref, plain] at passed
  refine ⟨_, _, _, _, passed, rfl, rfl, rfl, ?_, ?_, ?_⟩
  · rw [limitMotion_quat]
    unfold limitTurn
    dsimp only
    rw [still, if_neg (not_lt.mpr caps.poseJumpAngular.le), still, zero_div,
      if_neg (not_lt.mpr caps.angularSpeed.le)]
  · have moved := limitMotion_displacement f.p f.dt ref asked
    rw [max_eq_left slow] at moved
    exact eq_add_of_sub_eq' moved
  · intro short
    rw [← Vec3.toE_sub, Vec3.norm_toE] at short
    have same : limitMotion f.p f.dt ref asked = asked :=
      limitMotion_of_still caps still (short.trans (min_le_left _ _))
        (short.trans (min_le_right _ _))
    rw [same]

section Segment

variable {start goal : Vec3 ℝ}

theorem norm_segment (start goal : Vec3 ℝ) :
    ‖goal.toE - start.toE‖ = (goal - start).norm := by
  rw [← Vec3.norm_toE, Vec3.toE_sub]

theorem norm_left_along {distance : ℝ} (lower : 0 ≤ distance)
    (before : distance ≤ (goal - start).norm) :
    ‖goal.toE - (alongSegment start goal distance).toE‖ = (goal - start).norm - distance := by
  rw [← norm_segment] at before ⊢
  by_cases apart : goal.toE - start.toE = 0
  · rw [apart, norm_zero] at before
    rw [alongSegment_toE, apart, smul_zero, add_zero, apart, norm_zero, le_antisymm before lower,
      sub_zero]
  · have length : 0 < ‖goal.toE - start.toE‖ := norm_pos_iff.mpr apart
    have rest : goal.toE - (alongSegment start goal distance).toE =
        ((‖goal.toE - start.toE‖ - distance) / ‖goal.toE - start.toE‖) •
          (goal.toE - start.toE) := by
      rw [alongSegment_toE, sub_div, div_self length.ne', sub_smul, one_smul, sub_add_eq_sub_sub]
    rw [rest, norm_smul, Real.norm_of_nonneg (div_nonneg (sub_nonneg.mpr before) length.le)]
    exact div_mul_cancel₀ _ length.ne'

theorem approach_alongSegment {cap floor distance : ℝ} (nonneg : 0 ≤ cap)
    (before : distance ≤ (goal - start).norm)
    (clear : cap < (goal - start).norm - distance → floor ≤ (goal - start).norm - distance) :
    approach cap floor (alongSegment start goal distance).toE goal.toE =
      (alongSegment start goal (min (distance + cap) (goal - start).norm)).toE := by
  rw [← norm_segment] at before clear ⊢
  by_cases apart : goal.toE - start.toE = 0
  · have fixed (s : ℝ) : (alongSegment start goal s).toE = start.toE := by
      rw [alongSegment_toE, apart, smul_zero, add_zero]
    rw [fixed, fixed, approach, apart, limit_of_le (norm_zero.trans_le nonneg), add_zero]
  · rw [alongSegment_toE, alongSegment_toE]
    exact approach_along nonneg (norm_pos_iff.mpr apart) before clear

/-- How far the first `k` calls get. -/
noncomputable def travelled (cap distance : ℝ) (k : ℕ) : ℝ := min (k * cap) distance

theorem travelled_nonneg {cap distance : ℝ} (nonneg : 0 ≤ cap) (lower : 0 ≤ distance) (k : ℕ) :
    0 ≤ travelled cap distance k :=
  le_min (mul_nonneg (Nat.cast_nonneg k) nonneg) lower

theorem travelled_succ {cap distance : ℝ} (nonneg : 0 ≤ cap) (k : ℕ) :
    min (travelled cap distance k + cap) distance = travelled cap distance (k + 1) := by
  unfold travelled
  rw [min_add, min_assoc, min_eq_right (le_add_of_nonneg_right nonneg)]
  push_cast
  ring_nf

theorem travelled_all {cap distance : ℝ} (positive : 0 < cap) {k : ℕ}
    (enough : ⌈distance / cap⌉ ≤ k) : travelled cap distance k = distance := by
  apply min_eq_right
  rw [← div_le_iff₀ positive]
  exact (Int.le_ceil _).trans (by exact_mod_cast enough)

theorem FloorIdle.clear {p : SafetyProfile ℝ} {dt distance : ℝ} (idle : FloorIdle p dt distance)
    (nonneg : 0 ≤ linearStep p dt) (lower : 0 ≤ distance) (k : ℕ)
    (long : linearStep p dt < distance - travelled (linearStep p dt) distance k) :
    (p.maxPoseJumpLinear ≤ p.maxLinearSpeed * dt ∨ eps ≤ p.maxPoseJumpLinear) ∧
      eps ≤ distance - travelled (linearStep p dt) distance k := by
  rcases idle with short | ⟨capped, above⟩
  · have gone := travelled_nonneg nonneg lower k
    linarith
  · refine ⟨capped, ?_⟩
    rcases le_total (k * linearStep p dt) distance with inside | past
    · rw [travelled, min_eq_left inside] at long ⊢
      exact above k long
    · rw [travelled, min_eq_right past, sub_self] at long
      linarith

end Segment

/-! ### Calls for one target -/

/-- The calls ask for `target`, and none of them feels too much contact. -/
def SteadyCalls (p : SafetyProfile ℝ) (target : Pose ℝ) (calls : List (FilterCall ℝ)) : Prop :=
  ∀ call ∈ calls, call.target = target ∧
    exceeds call.state.wrench (call.cap.getD p.maxContactWrench) = false

/-- The filter's reference is `k` calls under way from `start`. -/
structure SafetyFilter.Underway (f : SafetyFilter ℝ) (call : FilterCall ℝ) (start target : Pose ℝ)
    (k : ℕ) : Prop where
  pos : (f.prevPose.getD call.state.tcpPose).pos = alongSegment start.pos target.pos
    (travelled (linearStep f.p f.dt) (target.pos - start.pos).norm k)
  still : quatAngle (f.prevPose.getD call.state.tcpPose).quat target.quat = 0

section Arrival

variable {f : SafetyFilter ℝ} {start target : Pose ℝ}

/-- The `k + 1`-st call. -/
theorem SafetyFilter.filterCartesian_underway (caps : f.p.PositiveCaps)
    (uncapped : f.p.maxLinearAccel = none) (slow : eps ≤ f.dt) (inside : f.p.contains target.pos)
    (idle : FloorIdle f.p f.dt (target.pos - start.pos).norm) {call : FilterCall ℝ} {k : ℕ}
    (asks : call.target = target)
    (light : exceeds call.state.wrench (call.cap.getD f.p.maxContactWrench) = false)
    (underway : f.Underway call start target k) :
    ∃ pose clipped reasons f', f.filterCartesian call.target call.state call.cap =
        ({ ok := true, pose := some pose, clipped := clipped, clipReasons := reasons }, f') ∧
      f'.p = f.p ∧ f'.dt = f.dt ∧ f'.prevPose = some pose ∧ pose.quat = target.quat ∧
      pose.pos = alongSegment start.pos target.pos
        (travelled (linearStep f.p f.dt) (target.pos - start.pos).norm (k + 1)) ∧
      ((target.pos - start.pos).norm -
          travelled (linearStep f.p f.dt) (target.pos - start.pos).norm k ≤
        linearStep f.p f.dt → clipped = false) := by
  have nonneg := (linearStep_pos caps (eps_pos.trans_le slow)).le
  have lower : 0 ≤ (target.pos - start.pos).norm := norm_segment start.pos target.pos ▸ norm_nonneg _
  have gone := travelled_nonneg nonneg lower k
  have before : travelled (linearStep f.p f.dt) (target.pos - start.pos).norm k ≤
      (target.pos - start.pos).norm := min_le_right _ _
  subst asks
  obtain ⟨pose, clipped, reasons, f', passed, profile, step, left, quat, moved, unclipped⟩ :=
    filterCartesian_toward caps uncapped slow light inside rfl underway.still
  have rest := norm_left_along gone before
  rw [underway.pos] at moved unclipped
  rw [limit_both caps] at moved
  · have reached := approach_alongSegment nonneg before
      (fun long => (idle.clear nonneg lower k long).2)
    rw [approach, ← moved, travelled_succ nonneg] at reached
    refine ⟨pose, clipped, reasons, f', passed, profile, step, left, quat,
      Vec3.toE_injective reached, ?_⟩
    rw [← rest]
    exact unclipped
  · intro long
    rw [rest] at long
    exact (idle.clear nonneg lower k ((min_le_left _ _).trans_lt long)).1

theorem SafetyFilter.after_underway (uncapped : f.p.maxLinearAccel = none) (caps : f.p.PositiveCaps)
    (slow : eps ≤ f.dt) (inside : f.p.contains target.pos)
    (idle : FloorIdle f.p f.dt (target.pos - start.pos).norm) (before : List (FilterCall ℝ)) :
    ∀ {f' : SafetyFilter ℝ} {k : ℕ} (call : FilterCall ℝ), f'.p = f.p → f'.dt = f.dt →
      SteadyCalls f.p target before →
      (∀ first ∈ (before ++ [call]).head?, f'.Underway first start target k) →
      (f'.after before).p = f.p ∧ (f'.after before).dt = f.dt ∧
        (f'.after before).Underway call start target (k + before.length) := by
  induction before with
  | nil =>
      intro f' k call profile step _ underway
      exact ⟨profile, step, underway call rfl⟩
  | cons first rest ih =>
      intro f' k call profile step steady underway
      obtain ⟨asks, light⟩ := steady first List.mem_cons_self
      obtain ⟨pose, clipped, reasons, f'', passed, profile', step', left, quat, reached, _⟩ :=
        filterCartesian_underway (profile ▸ caps) (profile ▸ uncapped) (step ▸ slow)
          (profile ▸ inside) (profile ▸ step ▸ idle) asks (profile ▸ light)
          (underway first rfl)
      have next : ∀ later ∈ (rest ++ [call]).head?, f''.Underway later start target (k + 1) := by
        intro later _
        constructor
        · rw [left, profile', step']
          exact reached
        · rw [left, Option.getD_some, quat]
          exact quatAngle_of_aligned rfl
      have onward := ih call (profile'.trans profile) (step'.trans step)
        (fun other member => steady other (List.mem_cons_of_mem first member)) next
      rw [SafetyFilter.after, List.foldl_cons, passed, List.length_cons, add_comm rest.length,
        ← add_assoc]
      exact onward

/-- Every call for a constant target in the box, its quaternion giving no angle to the
reference's, emits the next point of the segment, and the target once there. -/
theorem constant_target_reached (f : SafetyFilter ℝ) (caps : f.p.PositiveCaps)
    (uncapped : f.p.maxLinearAccel = none) (slow : 1 / 1000000000 ≤ f.dt) (start target : Pose ℝ)
    (inside : f.p.contains target.pos) (still : quatAngle start.quat target.quat = 0)
    (idle : FloorIdle f.p f.dt (target.pos - start.pos).norm)
    (before : List (FilterCall ℝ)) (call : FilterCall ℝ)
    (steady : SteadyCalls f.p target (before ++ [call]))
    (at_start : ∀ first ∈ (before ++ [call]).head?,
      f.prevPose.getD first.state.tcpPose = start) :
    let c := min f.p.maxPoseJumpLinear (f.p.maxLinearSpeed * f.dt)
    let d := (target.pos - start.pos).norm
    let k := before.length + 1
    ∃ pose clipped reasons f',
      (f.after before).filterCartesian call.target call.state call.cap =
        ({ ok := true, pose := some pose, clipped := clipped, clipReasons := reasons }, f') ∧
      pose = ⟨alongSegment start.pos target.pos (min (k * c) d), target.quat⟩ ∧
      (max 1 ⌈d / c⌉ ≤ k → pose = target) ∧ (max 1 ⌈d / c⌉ < k → clipped = false) := by
  intro c d k
  rw [← eps_real] at slow
  have positive := linearStep_pos caps (eps_pos.trans_le slow)
  have began : ∀ first ∈ (before ++ [call]).head?, f.Underway first start target 0 := by
    intro first member
    have ref := at_start first member
    constructor
    · rw [ref, travelled, Nat.cast_zero, zero_mul, min_eq_left, alongSegment_zero]
      exact norm_segment start.pos target.pos ▸ norm_nonneg _
    · rw [ref]
      exact still
  obtain ⟨asks, light⟩ := steady call (List.mem_append_right before List.mem_cons_self)
  obtain ⟨profile, step, underway⟩ := SafetyFilter.after_underway uncapped caps slow inside idle
    before call rfl rfl (fun other member => steady other (List.mem_append_left _ member)) began
  rw [zero_add] at underway
  obtain ⟨pose, clipped, reasons, f', passed, _, _, _, quat, reached, unclipped⟩ :=
    SafetyFilter.filterCartesian_underway (profile ▸ caps) (profile ▸ uncapped) (step ▸ slow)
      (profile ▸ inside) (profile ▸ step ▸ idle) asks (profile ▸ light) underway
  rw [profile, step] at reached unclipped
  refine ⟨pose, clipped, reasons, f', passed, Pose.ext reached quat, ?_, ?_⟩
  · intro enough
    rw [travelled_all positive ((le_max_right _ _).trans enough), alongSegment_last] at reached
    exact Pose.ext reached quat
  · intro past
    apply unclipped
    have arrived : ⌈d / c⌉ ≤ before.length := by
      have next : ⌈d / c⌉ < (before.length + 1 : ℕ) := (le_max_right _ _).trans_lt past
      omega
    rw [travelled_all positive arrived, sub_self]
    exact positive.le

end Arrival

theorem floorIdle_of_le {p : SafetyProfile ℝ} {dt : ℝ} (coarse : eps ≤ linearStep p dt)
    (distance : ℝ) : FloorIdle p dt distance :=
  Or.inr ⟨Or.inr (coarse.trans (min_le_left _ _)), fun _ long => coarse.trans long.le⟩

/-- 5 cm at 2.5 mm a call: the twentieth call emits the target. -/
theorem constant_target_reached_raise :
    ∃ clipped reasons f',
      (((SafetyFilter.init tabletop (1 / 100)).reset none (some overTable)).after
          (List.replicate 19 raiseCall)).filterCartesian raiseCall.target raiseCall.state
        raiseCall.cap =
        ({ ok := true, pose := some raiseCall.target, clipped := clipped,
           clipReasons := reasons }, f') := by
  have step : min (tabletop.maxPoseJumpLinear) (tabletop.maxLinearSpeed * (1 / 100)) =
      (1 / 400 : ℝ) := by
    norm_num [tabletop]
  have inside : tabletop.contains raiseCall.target.pos := by
    intro axis
    cases axis with
    | x => norm_num [SafetyProfile.interval, axisValue, tabletop, raiseCall]
    | y => norm_num [SafetyProfile.interval, axisValue, tabletop, raiseCall]
    | z => norm_num [SafetyProfile.interval, axisValue, tabletop, raiseCall]
  have steady : SteadyCalls tabletop raiseCall.target
      (List.replicate 19 raiseCall ++ [raiseCall]) := by
    intro call member
    have same : call = raiseCall := by
      rcases List.mem_append.mp member with earlier | last
      · exact List.eq_of_mem_replicate earlier
      · exact List.mem_singleton.mp last
    rw [same]
    exact ⟨rfl, quiet_light⟩
  have coarse : (eps : ℝ) ≤ linearStep tabletop (1 / 100) := by
    rw [linearStep, step, eps_real]
    norm_num
  obtain ⟨pose, clipped, reasons, f', passed, _, arrives, _⟩ := constant_target_reached
    ((SafetyFilter.init tabletop (1 / 100)).reset none (some overTable)) tabletop_positiveCaps rfl
    (by norm_num [SafetyFilter.init]) overTable raiseCall.target inside
    (quatAngle_of_aligned rfl) (floorIdle_of_le coarse _) (List.replicate 19 raiseCall) raiseCall
    steady (fun _ _ => rfl)
  have arrived : pose = raiseCall.target := by
    apply arrives
    change max 1 ⌈(raiseCall.target.pos - overTable.pos).norm /
      min (tabletop.maxPoseJumpLinear) (tabletop.maxLinearSpeed * (1 / 100))⌉ ≤ _
    rw [raise_norm, step, List.length_replicate]
    norm_num
  exact ⟨clipped, reasons, f', arrived ▸ passed⟩

noncomputable def creepingTabletop : SafetyProfile ℝ :=
  { maxLinearSpeed := 1 / 10000000000 }

theorem creepingTabletop_positiveCaps : creepingTabletop.PositiveCaps where
  linearSpeed := by norm_num [creepingTabletop]
  angularSpeed := by norm_num [creepingTabletop]
  poseJumpLinear := by norm_num [creepingTabletop]
  poseJumpAngular := by norm_num [creepingTabletop]
  jointSpeed := by norm_num [creepingTabletop]
  linearAccel := by
    intro a accel
    cases accel

noncomputable def creepCall : FilterCall ℝ where
  target := ⟨⟨1 / 2, 0, 3 / 10 + 1 / 2000000000⟩, 1⟩
  state := { stamp := 0 }

/-- At one call a second, the first call for a target in the box half a nanometre away goes
half the tenth of a nanometre it is due. -/
theorem creeping_call_falls_short :
    creepingTabletop.contains creepCall.target.pos ∧
    ¬ ∃ clipped reasons f',
      ((SafetyFilter.init creepingTabletop 1).reset none (some overTable)).filterCartesian
        creepCall.target creepCall.state creepCall.cap =
        ({ ok := true,
           pose := some ⟨alongSegment overTable.pos creepCall.target.pos
             (min (1 * min creepingTabletop.maxPoseJumpLinear (creepingTabletop.maxLinearSpeed * 1))
               (creepCall.target.pos - overTable.pos).norm), creepCall.target.quat⟩,
           clipped := clipped, clipReasons := reasons }, f') := by
  have inside : creepingTabletop.contains creepCall.target.pos := by
    intro axis
    cases axis with
    | x => norm_num [SafetyProfile.interval, axisValue, creepingTabletop, creepCall]
    | y => norm_num [SafetyProfile.interval, axisValue, creepingTabletop, creepCall]
    | z => norm_num [SafetyProfile.interval, axisValue, creepingTabletop, creepCall]
  have distance : (creepCall.target.pos - overTable.pos).norm = 1 / 2000000000 :=
    norm_raised overTable.pos (by norm_num)
  refine ⟨inside, ?_⟩
  rintro ⟨clipped, reasons, f', due⟩
  have slow : (eps : ℝ) ≤ ((SafetyFilter.init creepingTabletop 1).reset none
      (some overTable)).dt := by
    rw [SafetyFilter.reset_dt, eps_real]
    norm_num [SafetyFilter.init]
  obtain ⟨pose, _, _, _, passed, _, _, _, _, moved, _⟩ := SafetyFilter.filterCartesian_toward
    (f := (SafetyFilter.init creepingTabletop 1).reset none (some overTable))
    creepingTabletop_positiveCaps rfl slow quiet_light inside rfl (quatAngle_of_aligned rfl)
  have same : pose = ⟨alongSegment overTable.pos creepCall.target.pos
      (min (1 * min creepingTabletop.maxPoseJumpLinear (creepingTabletop.maxLinearSpeed * 1))
        (creepCall.target.pos - overTable.pos).norm), creepCall.target.quat⟩ := by
    have results := congrArg (·.1.pose) (passed.symm.trans due)
    exact Option.some.inj results
  have length := (norm_segment overTable.pos creepCall.target.pos).trans distance
  change pose.pos.toE = overTable.pos.toE + limit (1 / 10000000000 * 1) (1 / 10000000000 * 1) eps
    (limit creepingTabletop.maxPoseJumpLinear creepingTabletop.maxPoseJumpLinear eps
      (creepCall.target.pos.toE - overTable.pos.toE)) at moved
  have unjumped : limit creepingTabletop.maxPoseJumpLinear creepingTabletop.maxPoseJumpLinear eps
      (creepCall.target.pos.toE - overTable.pos.toE) =
        creepCall.target.pos.toE - overTable.pos.toE := by
    apply limit_of_le
    rw [length]
    norm_num [creepingTabletop]
  have slowed : 1 / 10000000000 * 1 < ‖creepCall.target.pos.toE - overTable.pos.toE‖ := by
    rw [length]
    norm_num
  rw [unjumped, limit_of_lt slowed, length, eps_real, same] at moved
  have due_step : min (1 * min creepingTabletop.maxPoseJumpLinear
      (creepingTabletop.maxLinearSpeed * 1)) (creepCall.target.pos - overTable.pos).norm =
        1 / 10000000000 := by
    rw [distance]
    norm_num [creepingTabletop]
  dsimp only at moved
  rw [due_step, alongSegment_toE, length, add_right_inj, ← sub_eq_zero, ← sub_smul,
    smul_eq_zero] at moved
  rcases moved with scale | still
  · norm_num at scale
  · rw [still, norm_zero] at length
    norm_num at length

end FlexivControl
