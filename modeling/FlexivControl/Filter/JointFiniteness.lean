/-
Joint targets that are not finite.

The clip to the joint limits replaces an infinite entry and passes on one that is not a
number, and so does the saturation of the step. Arrays without entries are compared as equal
to anything, so a filter without limits clips nothing.
-/

import FlexivControl.Filter.Finiteness

namespace FlexivControl

section Joints

open Broadcast

variable {K : Type} [Scalar K] {p : SafetyProfile K} {target clipped limited : List K}

theorem clipJoints_ok (found : p.clipJoints target = .ok clipped) : ∃ raised,
    map₂ Scalar.maximum target (p.jointLower.map (· + p.jointMarginRad)) = some raised ∧
      map₂ Scalar.minimum raised (p.jointUpper.map (· - p.jointMarginRad)) = some clipped := by
  unfold SafetyProfile.clipJoints at found
  obtain ⟨raised, raising, lowering⟩ := Except.of_bind_ok found
  exact ⟨raised, broadcast_ok raising, broadcast_ok lowering⟩

theorem clipJoints_mem (found : p.clipJoints target = .ok clipped) {c : K} (member : c ∈ clipped) :
    ∃ t ∈ target, ∃ lower ∈ p.jointLower, ∃ upper ∈ p.jointUpper,
      c = Scalar.clip t (lower + p.jointMarginRad) (upper - p.jointMarginRad) := by
  obtain ⟨raised, raising, lowering⟩ := clipJoints_ok found
  obtain ⟨r, atRaised, hi, atHi, rfl⟩ := mem_map₂ lowering member
  obtain ⟨t, atTarget, lo, atLo, rfl⟩ := mem_map₂ raising atRaised
  obtain ⟨lower, atLower, rfl⟩ := List.mem_map.mp atLo
  obtain ⟨upper, atUpper, rfl⟩ := List.mem_map.mp atHi
  exact ⟨t, atTarget, lower, atLower, upper, atUpper, rfl⟩

theorem mem_clipJoints (found : p.clipJoints target = .ok clipped) {t : K} (member : t ∈ target)
    (lowers : p.jointLower ≠ []) (uppers : p.jointUpper ≠ []) :
    ∃ lo hi : K, Scalar.clip t lo hi ∈ clipped := by
  obtain ⟨raised, raising, lowering⟩ := clipJoints_ok found
  obtain ⟨lo, _, atRaised⟩ := map₂_mem_left raising member (mt List.map_eq_nil_iff.mp lowers)
  obtain ⟨hi, _, atClipped⟩ :=
    map₂_mem_left lowering atRaised (mt List.map_eq_nil_iff.mp uppers)
  exact ⟨lo, hi, atClipped⟩

theorem clipJoints_empty (found : p.clipJoints target = .ok clipped)
    (limitless : p.jointLower = [] ∨ p.jointUpper = []) : clipped = [] := by
  rw [List.eq_nil_iff_forall_not_mem]
  intro c member
  obtain ⟨_, _, lower, atLower, upper, atUpper, _⟩ := clipJoints_mem found member
  rcases limitless with none | none
  · rw [none] at atLower
    cases atLower
  · rw [none] at atUpper
    cases atUpper

theorem limitedJoints_ok (found : p.limitedJoints target = .ok limited) :
    ∃ clipped closes, p.clipJoints target = .ok clipped ∧
      map₂ Scalar.close clipped target = some closes ∧
      limited = if closes.all id then target else clipped := by
  unfold SafetyProfile.limitedJoints at found
  obtain ⟨clipped, clip, found⟩ := Except.of_bind_ok found
  obtain ⟨inside, close, found⟩ := Except.of_bind_ok found
  unfold allcloseJoints at close
  split at close
  · cases close
  · rename_i closes compared
    cases close
    exact ⟨clipped, closes, clip, compared, (Except.ok.inj found).symm⟩

end Joints

section Limited

open Broadcast

theorem clipJoints_finite {p : SafetyProfile Ieee} (finite : p.Finite) {target clipped : List Ieee}
    (numbers : .nan ∉ target) (clip : p.clipJoints target = .ok clipped) :
    FiniteJoints clipped := by
  intro c member
  obtain ⟨t, atTarget, lower, atLower, upper, atUpper, rfl⟩ := clipJoints_mem clip member
  obtain ⟨lo, same⟩ := (finite.jointLower lower atLower).add finite.jointMargin
  obtain ⟨hi, same'⟩ := (finite.jointUpper upper atUpper).sub finite.jointMargin
  rw [same, same']
  apply Ieee.clip_finite
  intro nan
  exact numbers (nan ▸ atTarget)

variable {p : SafetyProfile Ieee} {target limited : List Ieee}
  (found : p.limitedJoints target = .ok limited)

include found

theorem limitedJoints_tainted (tainted : .nan ∈ target) : .nan ∈ limited := by
  obtain ⟨clipped, closes, clip, compared, chosen⟩ := limitedJoints_ok found
  rw [chosen]
  split
  · exact tainted
  · rename_i apart
    have entries : closes ≠ [] := by
      intro none
      rw [none] at apart
      exact apart rfl
    have limits : p.jointLower ≠ [] ∧ p.jointUpper ≠ [] := by
      by_contra limitless
      rw [not_and_or, not_not, not_not] at limitless
      exact entries (map₂_nil compared (Or.inl (clipJoints_empty clip limitless)))
    obtain ⟨lo, hi, member⟩ := mem_clipJoints clip tainted limits.1 limits.2
    exact member

theorem limitedJoints_limitless (limitless : p.jointLower = [] ∨ p.jointUpper = []) :
    limited = target := by
  obtain ⟨clipped, closes, clip, compared, chosen⟩ := limitedJoints_ok found
  have none : closes = [] := map₂_nil compared (Or.inl (clipJoints_empty clip limitless))
  rw [chosen, none]
  rfl

section Numbers

variable (finite : p.Finite) (numbers : .nan ∉ target)

include finite numbers

theorem limitedJoints_numbers : .nan ∉ limited := by
  obtain ⟨clipped, closes, clip, compared, chosen⟩ := limitedJoints_ok found
  rw [chosen]
  split
  · exact numbers
  · exact fun tainted => Ieee.not_finite_nan (clipJoints_finite finite numbers clip _ tainted)

theorem limitedJoints_finite
    (bounded : FiniteJoints target ∨ p.jointLower ≠ [] ∧ p.jointUpper ≠ []) :
    FiniteJoints limited := by
  obtain ⟨clipped, closes, clip, compared, chosen⟩ := limitedJoints_ok found
  have finite := clipJoints_finite finite numbers clip
  rw [chosen]
  split
  · rename_i close
    rcases bounded with already | ⟨lowers, uppers⟩
    · exact already
    · intro t member
      obtain ⟨lo, hi, inside⟩ := mem_clipJoints clip member lowers uppers
      obtain ⟨c, atClipped, near⟩ := map₂_mem_right compared member (List.ne_nil_of_mem inside)
      exact Ieee.finite_of_close (finite c atClipped) (List.all_eq_true.mp close _ near)
  · exact finite

end Numbers

end Limited

theorem maxJointStep_finite {p : SafetyProfile Ieee} (finite : p.Finite) {dt : Ieee}
    (step : dt.Finite) : (maxJointStep p dt).Finite := by
  unfold maxJointStep
  rw [Ieee.ofNat_eq]
  exact ((Ieee.finite_fin _).mul finite.jointSpeed).mul step

theorem finite_of_short {maxStep s : Ieee} (cap : maxStep.Finite) (number : s ≠ .nan)
    (short : ¬ maxStep < Scalar.abs s) : s.Finite := by
  obtain ⟨m, rfl⟩ := cap
  cases s with
  | nan => exact absurd rfl number
  | inf sign =>
      have big : Scalar.abs (Ieee.inf sign) = .inf false := by
        cases sign with
        | true => exact if_pos rfl
        | false => exact if_neg Bool.false_ne_true
      rw [big] at short
      exact absurd rfl short
  | fin x => exact Ieee.finite_fin x

theorem clampStep_tainted (maxStep : Ieee) : clampStep maxStep .nan = .nan := by
  unfold clampStep
  rw [Ieee.abs_nan, if_neg (Ieee.not_lt_nan _)]

theorem clampStep_finite {maxStep s : Ieee} (cap : maxStep.Finite) (number : s ≠ .nan) :
    (clampStep maxStep s).Finite := by
  unfold clampStep
  split
  · exact (Ieee.Finite.sign s).mul cap
  · rename_i short
    exact finite_of_short cap number short

theorem sub_number {t r : Ieee} (reference : r.Finite) (number : t ≠ .nan) : t - r ≠ .nan := by
  obtain ⟨x, rfl⟩ := reference
  cases t with
  | nan => exact absurd rfl number
  | inf s => exact fun same => by cases same
  | fin y => exact fun same => by cases same

theorem finite_of_sub {t r : Ieee} (reference : r.Finite) (finite : (t - r).Finite) : t.Finite := by
  obtain ⟨x, rfl⟩ := reference
  cases t with
  | nan => exact absurd finite Ieee.not_finite_nan
  | inf s => exact absurd finite (Ieee.not_finite_inf s)
  | fin y => exact Ieee.finite_fin y

/-- The joint target has no entry that is not a number, and whatever is infinite in it meets a
limit or a reference. -/
def SafetyFilter.TakesJoints (f : SafetyFilter Ieee) (target : List Ieee)
    (state : RobotState Ieee) : Prop :=
  .nan ∉ target ∧ (FiniteJoints target ∨ f.prevQ.getD state.q ≠ [] ∨
    f.p.jointLower ≠ [] ∧ f.p.jointUpper ≠ [])

theorem SafetyFilter.filterJoint_pose {K : Type} [Scalar K] {f f' : SafetyFilter K}
    {target : List K} {state : RobotState K} {sr : SafetyResult K}
    (passed : f.filterJoint target state = .ok (sr, f')) : sr.pose = none := by
  unfold filterJoint at passed
  obtain ⟨clippedQ, _, passed⟩ := Except.of_bind_ok passed
  obtain ⟨inside, _, passed⟩ := Except.of_bind_ok passed
  dsimp only at passed
  obtain ⟨step, _, passed⟩ := Except.of_bind_ok passed
  split at passed
  · obtain ⟨q, _, passed⟩ := Except.of_bind_ok passed
    cases passed
    rfl
  · cases passed
    rfl

section Call

open Broadcast

variable {f : SafetyFilter Ieee} (finite : f.Finite) {state : RobotState Ieee}
  (measured : state.Finite)

include finite measured

theorem SafetyFilter.reference_finite : FiniteJoints (f.prevQ.getD state.q) := by
  cases held : f.prevQ with
  | none => exact measured.q
  | some q => exact finite.q q held

theorem SafetyFilter.filterJoint_finite_iff {target : List Ieee} {sr : SafetyResult Ieee}
    {f' : SafetyFilter Ieee} (passed : f.filterJoint target state = .ok (sr, f')) :
    ∃ q, sr.ok = true ∧ sr.q = some q ∧ f' = { f with prevQ := some q } ∧
      (FiniteJoints q ↔ f.TakesJoints target state) := by
  obtain ⟨limited, step, q, limit, stepped, ok, found, left, moved⟩ := filterJoint_ok passed
  have stepped := broadcast_ok stepped
  have reference := SafetyFilter.reference_finite finite measured
  have cap := maxJointStep_finite finite.profile finite.step
  refine ⟨q, ok, found, left, ?_, ?_⟩
  · intro emitted
    constructor
    · intro tainted
      have kept := limitedJoints_tainted limit tainted
      rcases moved with ⟨same, _⟩ | ⟨⟨s, atStep, _⟩, saturated⟩
      · exact Ieee.not_finite_nan (emitted _ (same ▸ kept))
      · obtain ⟨_, _, r, atRef, _⟩ := mem_map₂ stepped atStep
        have referred := List.ne_nil_of_mem atRef
        obtain ⟨r', _, taintedStep⟩ := map₂_mem_left stepped kept referred
        have clamped := List.mem_map_of_mem (f := clampStep (maxJointStep f.p f.dt)) taintedStep
        rw [Ieee.nan_sub, clampStep_tainted] at clamped
        obtain ⟨r'', _, moved⟩ := map₂_mem_right (broadcast_ok saturated) clamped referred
        rw [Ieee.add_nan] at moved
        exact Ieee.not_finite_nan (emitted _ moved)
    · by_contra unbounded
      obtain ⟨infinite, rest⟩ := not_or.mp unbounded
      obtain ⟨referred, limits⟩ := not_or.mp rest
      rw [not_and_or, not_not, not_not] at limits
      rw [limitedJoints_limitless limit limits] at moved stepped
      have still := map₂_nil stepped (Or.inr (not_not.mp referred))
      rcases moved with ⟨same, _⟩ | ⟨⟨s, atStep, _⟩, _⟩
      · exact infinite (same ▸ emitted)
      · rw [still] at atStep
        cases atStep
  · rintro ⟨numbers, bounded⟩
    have clean := limitedJoints_numbers limit finite.profile numbers
    rcases moved with ⟨same, short⟩ | ⟨_, saturated⟩
    · rw [same]
      intro t member
      by_cases referred : f.prevQ.getD state.q = []
      · rcases bounded with already | some | limits
        · exact limitedJoints_finite limit finite.profile numbers (Or.inl already) t member
        · exact absurd referred some
        · exact limitedJoints_finite limit finite.profile numbers (Or.inr limits) t member
      · obtain ⟨r, atRef, atStep⟩ := map₂_mem_left stepped member referred
        apply finite_of_sub (reference r atRef)
        apply finite_of_short cap _ (short _ atStep)
        apply sub_number (reference r atRef)
        intro nan
        exact clean (nan ▸ member)
    · intro x member
      obtain ⟨r, atRef, c, atClamped, rfl⟩ := mem_map₂ (broadcast_ok saturated) member
      obtain ⟨s, atStep, rfl⟩ := List.mem_map.mp atClamped
      obtain ⟨t, atLimited, r', atRef', rfl⟩ := mem_map₂ stepped atStep
      apply (reference r atRef).add
      apply clampStep_finite cap
      apply sub_number (reference r' atRef')
      intro nan
      exact clean (nan ▸ atLimited)

end Call

end FlexivControl
