/-
The angle between consecutive emitted orientations.

The two angular limits turn back along an interpolation whose near-parallel branch takes the
chord for the arc. The chord runs ahead by the cosine of a small angle, and the second
limit, whichever branch it takes, only brings the orientation closer.
-/

import FlexivControl.Filter.Rotations
import FlexivControl.Library.Slerp

namespace FlexivControl

open Slerp

theorem quatNormalize_unit (q : Quat ℝ) : ‖(quatNormalize q).toE‖ = 1 := by
  rw [Quat.norm_toE]
  exact (quatNormalize_spec q).1

theorem quatNormalize_toE {q : Quat ℝ} (long : eps ≤ q.norm) :
    ∃ s : ℝ, s ≠ 0 ∧ (quatNormalize q).toE = s • q.toE := by
  have positive : 0 < q.norm := eps_pos.trans_le long
  unfold quatNormalize
  dsimp only
  rw [if_neg (not_lt.mpr long)]
  split
  · refine ⟨-1 * q.norm⁻¹, mul_ne_zero (by norm_num) (inv_ne_zero positive.ne'), ?_⟩
    rw [Quat.toE_neg, Quat.toE_div, smul_smul]
  · exact ⟨q.norm⁻¹, inv_ne_zero positive.ne', Quat.toE_div _ _⟩

theorem abs_dot_le_one {a b : Quat ℝ} (unitA : ‖a.toE‖ = 1) (unitB : ‖b.toE‖ = 1) :
    |a.dot b| ≤ 1 := by
  have bound := abs_real_inner_le_norm a.toE b.toE
  rw [unitA, unitB, one_mul, Quat.inner_toE] at bound
  exact bound

theorem quatAngle_eq (a b : Quat ℝ) :
    quatAngle a b = 2 * lineAngle (quatNormalize a).toE (quatNormalize b).toE := by
  have unitA := quatNormalize_unit a
  have unitB := quatNormalize_unit b
  have bound := abs_dot_le_one unitA unitB
  unfold quatAngle
  dsimp only
  rw [Scalar.abs_real, Scalar.greater_real, Scalar.lesser_real, Scalar.ofNat_real,
    max_eq_right (by linarith [abs_nonneg ((quatNormalize a).dot (quatNormalize b))]),
    min_eq_right bound, lineAngle_of_unit unitA unitB, Quat.inner_toE]
  rfl

theorem quatAngle_normalize {a b : Quat ℝ} (long : eps ≤ b.norm) :
    quatAngle a (quatNormalize b) = 2 * lineAngle (quatNormalize a).toE b.toE := by
  obtain ⟨s, nonzero, scaled⟩ := quatNormalize_toE long
  rw [quatAngle_eq, quatNormalize_idem, scaled, lineAngle_smul_right _ _ nonzero]

/-- Between quaternions that are not tiny, the angle computed is the angle. -/
theorem quatAngle_of_long {a b : Quat ℝ} (longA : eps ≤ a.norm) (longB : eps ≤ b.norm) :
    quatAngle a b = a.geodesicAngle b := by
  obtain ⟨s, nonzero, scaledA⟩ := quatNormalize_toE longA
  obtain ⟨t, nonzero', scaledB⟩ := quatNormalize_toE longB
  rw [quatAngle_eq, scaledA, scaledB, lineAngle_smul_right _ _ nonzero',
    lineAngle_smul_left _ _ nonzero, Quat.geodesicAngle_eq]

theorem near_representative (a b : Quat ℝ) :
    ∃ near : Quat ℝ, (if a.dot b < 0 then (-b, -a.dot b) else (b, a.dot b)) =
        (near, a.dot near) ∧ 0 ≤ a.dot near ∧ ‖near.toE‖ = ‖b.toE‖ ∧
      lineAngle a.toE near.toE = lineAngle a.toE b.toE := by
  by_cases far : a.dot b < 0
  · have flipped : a.dot (-b) = -a.dot b := by
      rw [← Quat.inner_toE, Quat.toE_neg, real_inner_smul_right, Quat.inner_toE, neg_one_mul]
    refine ⟨-b, ?_, ?_, ?_, ?_⟩
    · rw [if_pos far, flipped]
    · rw [flipped]
      exact (neg_pos.mpr far).le
    · rw [Quat.norm_toE, Quat.norm_toE, Quat.norm_neg]
    · rw [Quat.toE_neg, lineAngle_smul_right _ _ (by norm_num)]
  · exact ⟨b, if_neg far, not_lt.mp far, rfl, rfl⟩

section Branches

variable {u near : Quat ℝ} (unitU : ‖u.toE‖ = 1) (unitN : ‖near.toE‖ = 1) {t : ℝ} (lower : 0 ≤ t)
  (upper : t ≤ 1)

include unitU unitN lower upper

theorem parallel_turn (close : 9995 / 10000 < u.dot near) :
    eps ≤ (u + t * (near - u)).norm ∧
      lineAngle u.toE (u + t * (near - u)).toE ≤ lineAngle u.toE near.toE ∧
      lineAngle u.toE (u + t * (near - u)).toE ≤
        t * lineAngle u.toE near.toE * (1 + 1 / 1000) := by
  have chord : (u + t * (near - u)).toE = u.toE + t • (near.toE - u.toE) := by
    rw [Quat.toE_add, Quat.toE_mul, Quat.toE_sub]
  have facing : 0 < inner ℝ u.toE near.toE := by
    rw [Quat.inner_toE]
    linarith
  have length := inner_chord_le_norm unitU unitN upper
  have ahead := lineAngle_chord_le_mul unitU unitN lower upper facing
  have nonneg : 0 ≤ t * lineAngle u.toE near.toE := mul_nonneg lower (lineAngle_nonneg _ _)
  refine ⟨?_, ?_, ?_⟩
  · rw [← Quat.norm_toE, chord, eps_real]
    rw [Quat.inner_toE] at length
    linarith
  · rw [chord]
    exact lineAngle_chord_le unitU unitN lower upper facing
  · rw [chord]
    apply ahead.trans
    rw [div_le_iff₀ facing, Quat.inner_toE, mul_assoc]
    apply le_mul_of_one_le_right nonneg
    linarith

theorem arc_turn (facing : 0 ≤ u.dot near) (apart : u.dot near ≤ 9995 / 10000) :
    let θ := Real.arccos (u.dot near)
    let v := (Real.sin (θ - θ * t) / Real.sin θ) * u + (Real.sin (θ * t) / Real.sin θ) * near
    v.norm = 1 ∧ lineAngle u.toE v.toE = t * lineAngle u.toE near.toE := by
  intro θ v
  have angle : inner ℝ u.toE near.toE = Real.cos θ := by
    rw [Quat.inner_toE, Real.cos_arccos (by linarith) (by linarith)]
  have positive : 0 < θ := Real.arccos_pos.mpr (by linarith)
  have quarter : θ ≤ Real.pi / 2 := Real.arccos_le_pi_div_two.mpr facing
  have sine : Real.sin θ ≠ 0 :=
    (Real.sin_pos_of_pos_of_lt_pi positive (by linarith [Real.pi_pos])).ne'
  have mixed : v.toE = (Real.sin (θ - θ * t) / Real.sin θ) • u.toE +
      (Real.sin (θ * t) / Real.sin θ) • near.toE := by
    rw [Quat.toE_add, Quat.toE_mul, Quat.toE_mul]
  have whole : lineAngle u.toE near.toE = θ := by
    rw [lineAngle_of_unit unitU unitN, Quat.inner_toE, abs_of_nonneg facing]
  refine ⟨?_, ?_⟩
  · rw [← Quat.norm_toE, mixed]
    exact norm_arc unitU unitN angle sine _
  · rw [mixed, whole, mul_comm t]
    apply lineAngle_arc unitU unitN angle sine (mul_nonneg positive.le lower)
    exact (mul_le_of_le_one_right positive.le upper).trans quarter

end Branches

/-- Part of the way, the interpolation turns no farther than the whole way, and at most a
thousandth ahead of its fraction. -/
theorem quatSlerp_angle (a b : Quat ℝ) {t : ℝ} (lower : 0 ≤ t) (upper : t ≤ 1) :
    quatAngle a (quatSlerp a b t) ≤ quatAngle a b ∧
      quatAngle a (quatSlerp a b t) ≤ t * quatAngle a b * (1 + 1 / 1000) := by
  have unitA := quatNormalize_unit a
  obtain ⟨near, chosen, facing, sized, sameAngle⟩ :=
    near_representative (quatNormalize a) (quatNormalize b)
  have unitN : ‖near.toE‖ = 1 := sized.trans (quatNormalize_unit b)
  have whole : quatAngle a b = 2 * lineAngle (quatNormalize a).toE near.toE := by
    rw [quatAngle_eq, sameAngle]
  have nonneg := lineAngle_nonneg (quatNormalize a).toE near.toE
  have small := (abs_le.mp (abs_dot_le_one unitA unitN)).2
  have clamped : Scalar.lesser 1 (Scalar.greater (-1) ((quatNormalize a).dot near)) =
      (quatNormalize a).dot near := by
    rw [Scalar.greater_real, Scalar.lesser_real, max_eq_right (by linarith), min_eq_right small]
  have threshold : (Scalar.ofRat (9995 / 10000) : ℝ) = 9995 / 10000 := by
    rw [Scalar.ofRat_real]
    norm_num
  unfold quatSlerp
  dsimp only
  rw [chosen]
  dsimp only
  rw [whole, threshold, clamped]
  split
  · rename_i close
    obtain ⟨long, within, ahead⟩ := parallel_turn unitA unitN lower upper close
    rw [quatAngle_normalize long]
    constructor
    · linarith
    · linarith
  · rename_i apart
    obtain ⟨unit, turned⟩ := arc_turn unitA unitN lower upper facing (not_lt.mp apart)
    have long : eps ≤ (1 : ℝ) := by
      rw [eps_real]
      norm_num
    have fraction : quatAngle a (quatNormalize
        ((Real.sin (Real.arccos ((quatNormalize a).dot near) -
            Real.arccos ((quatNormalize a).dot near) * t) /
          Real.sin (Real.arccos ((quatNormalize a).dot near))) * quatNormalize a +
        (Real.sin (Real.arccos ((quatNormalize a).dot near) * t) /
          Real.sin (Real.arccos ((quatNormalize a).dot near))) * near)) =
        2 * (t * lineAngle (quatNormalize a).toE near.toE) := by
      rw [quatAngle_normalize (long.trans_eq unit.symm), turned]
    change quatAngle a (quatNormalize _) ≤ _ ∧ quatAngle a (quatNormalize _) ≤ _
    have part : 0 ≤ t * lineAngle (quatNormalize a).toE near.toE := mul_nonneg lower nonneg
    refine ⟨fraction.trans_le ?_, fraction.trans_le ?_⟩
    · nlinarith
    · linarith

/-! ### The two limits -/

noncomputable def angularStep (p : SafetyProfile ℝ) (dt : ℝ) : ℝ :=
  min p.maxPoseJumpAngular (p.maxAngularSpeed * dt)

theorem cut_turn {a b : Quat ℝ} {cap : ℝ} (positive : 0 < cap) (bites : cap < quatAngle a b) :
    let cut := quatSlerp a b (cap / Scalar.greater (quatAngle a b) eps)
    quatAngle a cut ≤ quatAngle a b ∧ quatAngle a cut ≤ cap * (1 + 1 / 1000) := by
  intro cut
  have whole : 0 < quatAngle a b := positive.trans bites
  have floor : quatAngle a b ≤ max (quatAngle a b) eps := le_max_left _ _
  have divisor : 0 < max (quatAngle a b) eps := whole.trans_le floor
  have lower : 0 ≤ cap / max (quatAngle a b) eps := div_nonneg positive.le divisor.le
  have upper : cap / max (quatAngle a b) eps ≤ 1 := by
    rw [div_le_one divisor]
    exact bites.le.trans floor
  have fraction : cap / max (quatAngle a b) eps * quatAngle a b ≤ cap := by
    rw [div_mul_eq_mul_div, div_le_iff₀ divisor]
    exact mul_le_mul_of_nonneg_left floor positive.le
  obtain ⟨within, ahead⟩ := quatSlerp_angle a b lower upper
  rw [← Scalar.greater_real] at within ahead fraction
  refine ⟨within, ahead.trans ?_⟩
  exact mul_le_mul_of_nonneg_right fraction (by norm_num)

theorem limitTurn_angle_le {p : SafetyProfile ℝ} (caps : p.PositiveCaps) {dt : ℝ}
    (slow : eps ≤ dt) (ref target : Quat ℝ) :
    quatAngle ref (limitTurn p dt ref target) ≤ angularStep p dt * (1 + 1 / 1000) := by
  have positive : 0 < dt := eps_pos.trans_le slow
  have speed : 0 < p.maxAngularSpeed * dt := mul_pos caps.angularSpeed positive
  have slack (cap : ℝ) (nonneg : 0 ≤ cap) : cap ≤ cap * (1 + 1 / 1000) :=
    le_mul_of_one_le_right nonneg (by norm_num)
  unfold limitTurn
  dsimp only
  have jumped : quatAngle ref (if p.maxPoseJumpAngular < quatAngle ref target then
      quatSlerp ref target (p.maxPoseJumpAngular / Scalar.greater (quatAngle ref target) eps)
      else target) ≤ p.maxPoseJumpAngular * (1 + 1 / 1000) := by
    split
    · rename_i bites
      exact (cut_turn caps.poseJumpAngular bites).2
    · rename_i short
      exact (not_lt.mp short).trans (slack _ caps.poseJumpAngular.le)
  generalize (if p.maxPoseJumpAngular < quatAngle ref target then
    quatSlerp ref target (p.maxPoseJumpAngular / Scalar.greater (quatAngle ref target) eps)
    else target) = held at *
  rw [angularStep, min_mul_of_nonneg _ _ (by norm_num), Scalar.greater_real dt, max_eq_left slow]
  split
  · rename_i fast
    obtain ⟨within, cut⟩ := cut_turn speed ((lt_div_iff₀ positive).mp fast)
    exact le_min (within.trans jumped) cut
  · rename_i slowly
    have short := (div_le_iff₀ positive).mp (not_lt.mp slowly)
    exact le_min jumped (short.trans (slack _ speed.le))

theorem limitTurn_of_within {p : SafetyProfile ℝ} {dt : ℝ} {ref target : Quat ℝ}
    (jump : ¬ p.maxPoseJumpAngular < quatAngle ref target)
    (spin : ¬ p.maxAngularSpeed < quatAngle ref target / Scalar.greater dt eps) :
    limitTurn p dt ref target = target := by
  unfold limitTurn
  dsimp only
  rw [if_neg jump, if_neg spin]

theorem limitTurn_long (p : SafetyProfile ℝ) (dt : ℝ) (ref : Quat ℝ) {target : Quat ℝ}
    (long : eps ≤ target.norm) : eps ≤ (limitTurn p dt ref target).norm := by
  by_cases unit : (limitTurn p dt ref target).norm = 1
  · rw [unit, eps_real]
    norm_num
  · have neither := (not_congr (limitTurn_norm_iff p dt ref target)).mp unit
    rw [limitTurn_of_within (fun bites => neither (Or.inr (Or.inl bites)))
      (fun bites => neither (Or.inr (Or.inr bites)))]
    exact long

/-- One call: refused with the filter unchanged, or the target turned back from the filter's
reference becomes the next reference. -/
theorem SafetyFilter.filterCartesian_turn (f : SafetyFilter ℝ) (call : FilterCall ℝ) :
    (∃ reason, f.filterCartesian call.target call.state call.cap =
        ({ ok := false, reason := reason }, f)) ∨
    ∃ pose clipped reasons f', f.filterCartesian call.target call.state call.cap =
        ({ ok := true, pose := some pose, clipped := clipped, clipReasons := reasons }, f') ∧
      f'.p = f.p ∧ f'.dt = f.dt ∧ f'.prevPose = some pose ∧
      pose.quat =
        limitTurn f.p f.dt (f.prevPose.getD call.state.tcpPose).quat call.target.quat := by
  rcases f.filterCartesian_cases call.target call.state call.cap with
    rejected | ⟨draft, _, limited, passed⟩
  · exact Or.inl rejected
  · right
    dsimp only at passed
    exact ⟨_, _, _, _, passed, rfl, rfl, rfl, filterCartesian_quat passed rfl⟩

theorem emitted_turns_isChain (calls : List (FilterCall ℝ)) :
    ∀ {f : SafetyFilter ℝ}, f.p.PositiveCaps → eps ≤ f.dt →
      (f.prevPose.toList ++ f.emitted calls).IsChain
        (fun a b => quatAngle a.quat b.quat ≤ angularStep f.p f.dt * (1 + 1 / 1000)) := by
  induction calls with
  | nil =>
      intro f _ _
      rw [SafetyFilter.emitted, List.append_nil]
      cases f.prevPose with
      | none => exact List.isChain_nil
      | some start => exact List.isChain_singleton _
  | cons call rest ih =>
      intro f caps slow
      rcases f.filterCartesian_turn call with
        ⟨reason, rejected⟩ | ⟨pose, _, _, f', passed, profile, step, reference, turned⟩
      · rw [SafetyFilter.emitted_of_rejected rest rejected]
        exact ih caps slow
      · have later := ih (profile ▸ caps) (step ▸ slow)
        rw [profile, step, reference] at later
        rw [SafetyFilter.emitted_of_ok rest passed]
        cases start : f.prevPose with
        | none => exact later
        | some before =>
            refine List.isChain_cons_cons.mpr ⟨?_, later⟩
            rw [turned, start]
            exact limitTurn_angle_le caps slow _ _

theorem emitted_long (calls : List (FilterCall ℝ)) :
    ∀ {f : SafetyFilter ℝ}, (∀ call ∈ calls, eps ≤ call.target.quat.norm) →
      ∀ pose ∈ f.emitted calls, eps ≤ pose.quat.norm := by
  induction calls with
  | nil =>
      intro f _ pose member
      cases member
  | cons call rest ih =>
      intro f long pose member
      obtain ⟨first, others⟩ := List.forall_mem_cons.mp long
      rcases f.filterCartesian_turn call with
        ⟨reason, rejected⟩ | ⟨here, _, _, f', passed, _, _, _, turned⟩
      · rw [SafetyFilter.emitted_of_rejected rest rejected] at member
        exact ih others pose member
      · rw [SafetyFilter.emitted_of_ok rest passed] at member
        rcases List.mem_cons.mp member with same | later
        · rw [same, turned]
          exact limitTurn_long _ _ _ first
        · exact ih others pose later

/-- In every run after a reset, consecutive orientations are within the tick's turn and a
thousandth: as the filter measures the angle, and where no quaternion is tiny, as it is. -/
theorem emitted_turns_within (f : SafetyFilter ℝ) (caps : f.p.PositiveCaps)
    (slow : 1 / 1000000000 ≤ f.dt) (state : Option (RobotState ℝ)) (pose : Option (Pose ℝ))
    (q : Option (List ℝ)) (calls : List (FilterCall ℝ)) :
    let start := (f.reset state pose q).prevPose.toList
    let emitted := (f.reset state pose q).emitted calls
    let bound := min f.p.maxPoseJumpAngular (f.p.maxAngularSpeed * f.dt) * (1 + 1 / 1000)
    (start ++ emitted).IsChain (fun a b => quatAngle a.quat b.quat ≤ bound) ∧
      ((∀ ref ∈ start, 1 / 1000000000 ≤ ref.quat.norm) →
        (∀ call ∈ calls, 1 / 1000000000 ≤ call.target.quat.norm) →
        (start ++ emitted).IsChain (fun a b => a.quat.geodesicAngle b.quat ≤ bound)) := by
  intro start emitted bound
  rw [← eps_real] at slow
  have measured : (start ++ emitted).IsChain (fun a b => quatAngle a.quat b.quat ≤ bound) := by
    have caps' : (f.reset state pose q).p.PositiveCaps := by
      rw [SafetyFilter.reset_p]
      exact caps
    have slow' : eps ≤ (f.reset state pose q).dt := by
      rw [SafetyFilter.reset_dt]
      exact slow
    have chain := emitted_turns_isChain calls caps' slow'
    rw [SafetyFilter.reset_p, SafetyFilter.reset_dt] at chain
    exact chain
  refine ⟨measured, ?_⟩
  intro longStart longCalls
  have long : ∀ pose ∈ start ++ emitted, eps ≤ pose.quat.norm := by
    rw [eps_real]
    intro pose member
    rcases List.mem_append.mp member with here | later
    · exact longStart pose here
    · rw [← eps_real]
      exact emitted_long calls (by rw [eps_real]; exact longCalls) pose later
  refine measured.imp_of_mem_imp ?_
  intro a b memberA memberB turned
  rw [← quatAngle_of_long (long a memberA) (long b memberB)]
  exact turned

noncomputable def orientCall (quat : Quat ℝ) : FilterCall ℝ where
  target := ⟨overTable.pos, quat⟩
  state := { stamp := 0 }

noncomputable def halfTurn : Quat ℝ := ⟨0, 0, 0, 1⟩

theorem halfTurn_norm : halfTurn.norm = 1 := by
  have square : (0 : ℝ) * 0 + 0 * 0 + 0 * 0 + 1 * 1 = 1 := by norm_num
  rw [Quat.norm, halfTurn, Quat.dot, square, Scalar.sqrt_real, Real.sqrt_one]

theorem emitted_turns_within_half :
    (overTable :: ((SafetyFilter.init tabletop (1 / 100)).reset none (some overTable)).emitted
        [orientCall halfTurn, orientCall halfTurn]).IsChain
      (fun a b => a.quat.geodesicAngle b.quat ≤ min tabletop.maxPoseJumpAngular
        (tabletop.maxAngularSpeed * (1 / 100)) * (1 + 1 / 1000)) := by
  have within := emitted_turns_within (SafetyFilter.init tabletop (1 / 100)) tabletop_positiveCaps
    (by norm_num [SafetyFilter.init]) none (some overTable) none
    [orientCall halfTurn, orientCall halfTurn]
  refine within.2 ?_ ?_
  · intro ref member
    rw [List.mem_singleton.mp member]
    change _ ≤ (1 : Quat ℝ).norm
    rw [Quat.norm_one]
    norm_num
  · intro call member
    have same : call = orientCall halfTurn := by
      rcases List.mem_cons.mp member with here | there
      · exact here
      · exact List.mem_singleton.mp there
    rw [same]
    change _ ≤ halfTurn.norm
    rw [halfTurn_norm]
    norm_num

noncomputable def faintTurn : Quat ℝ := ⟨0, 1 / 10000000000, 0, 0⟩

theorem faintTurn_norm : faintTurn.norm = 1 / 10000000000 := by
  have square : (0 : ℝ) * 0 + 1 / 10000000000 * (1 / 10000000000) + 0 * 0 + 0 * 0 =
      (1 / 10000000000) ^ 2 := by norm_num
  rw [Quat.norm, faintTurn, Quat.dot, square, Scalar.sqrt_real, Real.sqrt_sq (by norm_num)]

theorem aligned_emitted {f : SafetyFilter ℝ} (profile : f.p = tabletop) {quat : Quat ℝ}
    (aligned : quatNormalize (f.prevPose.getD ({ stamp := 0 } : RobotState ℝ).tcpPose).quat =
      quatNormalize quat) (rest : List (FilterCall ℝ)) :
    ∃ (pose : Pose ℝ) (f' : SafetyFilter ℝ),
      f.emitted (orientCall quat :: rest) = pose :: f'.emitted rest ∧
      pose.quat = quat ∧ f'.p = tabletop ∧ f'.prevPose = some pose := by
  rcases f.filterCartesian_turn (orientCall quat) with
    ⟨reason, rejected⟩ | ⟨pose, _, _, f', passed, profile', _, reference, turned⟩
  · have light : exceeds (orientCall quat).state.wrench
        ((orientCall quat).cap.getD f.p.maxContactWrench) = false := by
      rw [profile]
      exact quiet_light
    have inside : f.p.contains overTable.pos := by
      rw [profile]
      exact overTable_contains rfl rfl rfl
    have limited : limitWorkspace f.p ⟨(orientCall quat).target, false, []⟩ =
        some ⟨(orientCall quat).target, false, []⟩ := limitWorkspace_of_contains inside
    have passed := SafetyFilter.filterCartesian_of_limited light limited
    dsimp only at passed
    rw [rejected, Prod.mk.injEq] at passed
    cases passed.1
  · have still : quatAngle (f.prevPose.getD (orientCall quat).state.tcpPose).quat quat = 0 :=
      quatAngle_of_aligned aligned
    refine ⟨pose, f', SafetyFilter.emitted_of_ok rest passed, ?_, profile'.trans profile,
      reference⟩
    rw [turned]
    apply limitTurn_of_within
    · change ¬ _ < quatAngle _ quat
      rw [still, profile]
      exact not_lt.mpr tabletop_positiveCaps.poseJumpAngular.le
    · change ¬ _ < quatAngle _ quat / _
      rw [still, profile, zero_div]
      exact not_lt.mpr tabletop_positiveCaps.angularSpeed.le

/-- Taken for no rotation at all, the faint half turn follows the upright orientation at once. -/
theorem faint_turn_jumps :
    ¬ (((SafetyFilter.init tabletop (1 / 100)).reset none (some overTable)).emitted
        [orientCall 1, orientCall faintTurn]).IsChain
      (fun a b => a.quat.geodesicAngle b.quat ≤ min tabletop.maxPoseJumpAngular
        (tabletop.maxAngularSpeed * (1 / 100)) * (1 + 1 / 1000)) := by
  intro chain
  have begun : ((SafetyFilter.init tabletop (1 / 100)).reset none (some overTable)).p = tabletop :=
    rfl
  have upright : quatNormalize ((((SafetyFilter.init tabletop (1 / 100)).reset none
      (some overTable)).prevPose.getD ({ stamp := 0 } : RobotState ℝ).tcpPose).quat) =
      quatNormalize (1 : Quat ℝ) := rfl
  obtain ⟨_, f', first, atFirst, profile, reference⟩ :=
    aligned_emitted begun upright [orientCall faintTurn]
  have faint : quatNormalize faintTurn = 1 := by
    unfold quatNormalize
    dsimp only
    rw [faintTurn_norm, eps_real, if_pos (by norm_num)]
  have aligned : quatNormalize (f'.prevPose.getD ({ stamp := 0 } : RobotState ℝ).tcpPose).quat =
      quatNormalize faintTurn := by
    rw [reference, Option.getD_some, atFirst, faint]
    exact quatNormalize_of_unit Quat.norm_one zero_le_one
  obtain ⟨_, _, second, atSecond, _, _⟩ := aligned_emitted profile aligned []
  rw [first, second] at chain
  have jump := (List.isChain_cons_cons.mp chain).1
  have across : (1 : Quat ℝ).dot faintTurn = 0 := by
    change (1 : ℝ) * 0 + 0 * (1 / 10000000000) + 0 * 0 + 0 * 0 = 0
    norm_num
  rw [atFirst, atSecond, Quat.geodesicAngle, across, abs_zero, zero_div, Real.arccos_zero] at jump
  have cap : tabletop.maxPoseJumpAngular = 15 / 100 := by norm_num [tabletop]
  have small := min_le_left tabletop.maxPoseJumpAngular (tabletop.maxAngularSpeed * (1 / 100))
  rw [cap] at small jump
  linarith [Real.two_le_pi]

end FlexivControl
