/-
Shortening a step to a cap, in any real normed space.

`limit` is the saturation every per-tick limiter performs: leave a short step
alone, scale a long one down to the cap. A floor under the divisor keeps the
scale finite. `approach` moves a value toward a goal by one limited step.
-/

import FlexivControl.Library.Scalar
import Mathlib.Analysis.Normed.Module.Basic
import Mathlib.Analysis.Normed.Operator.LinearIsometry

namespace StepLimit

variable {E : Type*} [NormedAddCommGroup E] [NormedSpace ℝ E]

/-- Scale `step` to length `cap` once its length passes `threshold`. -/
noncomputable def limit (threshold cap floor : ℝ) (step : E) : E :=
  if threshold < ‖step‖ then (cap / max ‖step‖ floor) • step else step

theorem limit_of_le {threshold cap floor : ℝ} {step : E} (short : ‖step‖ ≤ threshold) :
    limit threshold cap floor step = step :=
  if_neg (not_lt.mpr short)

theorem limit_of_lt {threshold cap floor : ℝ} {step : E} (long : threshold < ‖step‖) :
    limit threshold cap floor step = (cap / max ‖step‖ floor) • step :=
  if_pos long

/-- Limiting shrinks along the step: it never turns round and never overshoots. -/
theorem limit_eq_smul {threshold cap : ℝ} (floor : ℝ) (nonneg : 0 ≤ cap)
    (below : cap ≤ threshold) (step : E) :
    ∃ t : ℝ, 0 ≤ t ∧ t ≤ 1 ∧ limit threshold cap floor step = t • step := by
  by_cases long : threshold < ‖step‖
  · have lengthBelow : ‖step‖ ≤ max ‖step‖ floor := le_max_left _ _
    have positive : 0 < max ‖step‖ floor := by linarith
    refine ⟨cap / max ‖step‖ floor, ?_, ?_, limit_of_lt long⟩
    · exact div_nonneg nonneg positive.le
    · rw [div_le_one positive]
      linarith
  · exact ⟨1, zero_le_one, le_refl 1, by rw [limit_of_le (not_lt.mp long), one_smul]⟩

theorem norm_limit_le {cap : ℝ} (floor : ℝ) (nonneg : 0 ≤ cap) (step : E) :
    ‖limit cap cap floor step‖ ≤ cap := by
  by_cases long : cap < ‖step‖
  · have lengthBelow : ‖step‖ ≤ max ‖step‖ floor := le_max_left _ _
    have positive : 0 < max ‖step‖ floor := by linarith
    rw [limit_of_lt long, norm_smul, Real.norm_of_nonneg (div_nonneg nonneg positive.le),
      div_mul_eq_mul_div, div_le_iff₀ positive]
    exact mul_le_mul_of_nonneg_left lengthBelow nonneg
  · rw [limit_of_le (not_lt.mp long)]
    exact not_lt.mp long

theorem norm_limit_le_threshold {threshold cap : ℝ} (floor : ℝ) (nonneg : 0 ≤ cap)
    (below : cap ≤ threshold) (step : E) : ‖limit threshold cap floor step‖ ≤ threshold := by
  by_cases long : threshold < ‖step‖
  · have same : limit threshold cap floor step = limit cap cap floor step := by
      rw [limit_of_lt long, limit_of_lt (lt_of_le_of_lt below long)]
    rw [same]
    exact le_trans (norm_limit_le floor nonneg step) below
  · rw [limit_of_le (not_lt.mp long)]
    exact not_lt.mp long

theorem norm_smul_le_of_unit {t : ℝ} (lower : 0 ≤ t) (upper : t ≤ 1) (step : E) :
    ‖t • step‖ ≤ ‖step‖ := by
  rw [norm_smul, Real.norm_of_nonneg lower]
  exact mul_le_of_le_one_left (norm_nonneg _) upper

theorem norm_limit_le_norm {threshold cap : ℝ} (floor : ℝ) (nonneg : 0 ≤ cap)
    (below : cap ≤ threshold) (step : E) :
    ‖limit threshold cap floor step‖ ≤ ‖step‖ := by
  obtain ⟨t, lower, upper, same⟩ := limit_eq_smul floor nonneg below step
  rw [same]
  exact norm_smul_le_of_unit lower upper step

/-- A cap above the one already kept changes nothing. -/
theorem limit_limit_of_le {inner outer : ℝ} (floor : ℝ) (nonneg : 0 ≤ inner)
    (below : inner ≤ outer) (step : E) :
    limit outer outer floor (limit inner inner floor step) = limit inner inner floor step :=
  limit_of_le ((norm_limit_le floor nonneg step).trans below)

/-- A cap below the one already kept, which is itself above the floor, is all that counts. -/
theorem limit_limit {inner outer floor : ℝ} (positive : 0 < inner) (above : floor ≤ inner)
    (below : outer ≤ inner) (step : E) :
    limit outer outer floor (limit inner inner floor step) = limit outer outer floor step := by
  by_cases long : inner < ‖step‖
  · have length : 0 < ‖step‖ := positive.trans long
    have kept : limit inner inner floor step = (inner / ‖step‖) • step := by
      rw [limit_of_lt long, max_eq_left (above.trans long.le)]
    have norm : ‖(inner / ‖step‖) • step‖ = inner := by
      rw [norm_smul, Real.norm_of_nonneg (div_nonneg positive.le length.le)]
      exact div_mul_cancel₀ inner length.ne'
    have whole : limit outer outer floor step = (outer / ‖step‖) • step := by
      rw [limit_of_lt (below.trans_lt long), max_eq_left (above.trans long.le)]
    rw [kept, whole]
    rcases below.lt_or_eq with less | same
    · have passed : outer < ‖(inner / ‖step‖) • step‖ := by
        rw [norm]
        exact less
      rw [limit_of_lt passed, norm, max_eq_left above, smul_smul]
      congr 1
      field_simp
    · rw [limit_of_le (norm.trans same.symm).le, same]
  · rw [limit_of_le (not_lt.mp long)]

/-- One limited step from `previous` toward `goal`. -/
noncomputable def approach (cap floor : ℝ) (previous goal : E) : E :=
  previous + limit cap cap floor (goal - previous)

theorem norm_approach_sub_le {cap : ℝ} (floor : ℝ) (nonneg : 0 ≤ cap) (previous goal : E) :
    ‖approach cap floor previous goal - previous‖ ≤ cap := by
  rw [approach, add_sub_cancel_left]
  exact norm_limit_le floor nonneg _

/-- The approached value is a mean of the two ends, so any bound both ends
satisfy is kept: the limited step cannot lengthen what it starts from. -/
theorem approach_eq_mean {cap : ℝ} (floor : ℝ) (nonneg : 0 ≤ cap) (previous goal : E) :
    ∃ t : ℝ, 0 ≤ t ∧ t ≤ 1 ∧
      approach cap floor previous goal = (1 - t) • previous + t • goal := by
  obtain ⟨t, lower, upper, same⟩ :=
    limit_eq_smul floor nonneg (le_refl cap) (goal - previous)
  refine ⟨t, lower, upper, ?_⟩
  rw [approach, same, smul_sub, sub_smul, one_smul]
  abel

/-- From a point at distance `s` along the way, one limited step reaches distance `s + cap`
or the goal, as long as a distance the cap shortens is above the floor. -/
theorem approach_along {cap floor s : ℝ} (nonneg : 0 ≤ cap) {start goal : E}
    (apart : 0 < ‖goal - start‖) (before : s ≤ ‖goal - start‖)
    (clear : cap < ‖goal - start‖ - s → floor ≤ ‖goal - start‖ - s) :
    approach cap floor (start + (s / ‖goal - start‖) • (goal - start)) goal =
      start + (min (s + cap) ‖goal - start‖ / ‖goal - start‖) • (goal - start) := by
  have rest : goal - (start + (s / ‖goal - start‖) • (goal - start)) =
      ((‖goal - start‖ - s) / ‖goal - start‖) • (goal - start) := by
    rw [sub_div, div_self apart.ne', sub_smul, one_smul, sub_add_eq_sub_sub]
  have left : ‖goal - (start + (s / ‖goal - start‖) • (goal - start))‖ = ‖goal - start‖ - s := by
    rw [rest, norm_smul, Real.norm_of_nonneg (div_nonneg (sub_nonneg.mpr before) apart.le)]
    exact div_mul_cancel₀ _ apart.ne'
  by_cases long : cap < ‖goal - start‖ - s
  · have room : 0 < ‖goal - start‖ - s := nonneg.trans_lt long
    rw [approach, limit_of_lt (left ▸ long), left, max_eq_left (clear long), rest, smul_smul,
      add_assoc, ← add_smul, min_eq_left (by linarith)]
    congr 2
    field_simp
  · rw [approach, limit_of_le (left ▸ not_lt.mp long), add_sub_cancel,
      min_eq_right (by linarith), div_self apart.ne', one_smul, add_sub_cancel]

theorem norm_mean_le {bound t : ℝ} (lower : 0 ≤ t) (upper : t ≤ 1) {left right : E}
    (leftBound : ‖left‖ ≤ bound) (rightBound : ‖right‖ ≤ bound) :
    ‖(1 - t) • left + t • right‖ ≤ bound := by
  have rest : 0 ≤ 1 - t := by linarith
  calc ‖(1 - t) • left + t • right‖
      ≤ ‖(1 - t) • left‖ + ‖t • right‖ := norm_add_le _ _
    _ = (1 - t) * ‖left‖ + t * ‖right‖ := by
        rw [norm_smul, norm_smul, Real.norm_of_nonneg rest, Real.norm_of_nonneg lower]
    _ ≤ (1 - t) * bound + t * bound :=
        add_le_add (mul_le_mul_of_nonneg_left leftBound rest)
          (mul_le_mul_of_nonneg_left rightBound lower)
    _ = bound := by ring

/-- A fraction of the way from one point to another is no farther from a third than
the farther of the two. -/
theorem norm_partway_sub_le {bound t : ℝ} (lower : 0 ≤ t) (upper : t ≤ 1) {start goal center : E}
    (startNear : ‖start - center‖ ≤ bound) (goalNear : ‖goal - center‖ ≤ bound) :
    ‖start + t • (goal - start) - center‖ ≤ bound := by
  have mean : start + t • (goal - start) - center =
      (1 - t) • (start - center) + t • (goal - center) := by
    rw [smul_sub, smul_sub, smul_sub, sub_smul, sub_smul, one_smul, one_smul]
    abel
  rw [mean]
  exact norm_mean_le lower upper startNear goalNear

theorem norm_approach_le {cap bound : ℝ} (floor : ℝ) (nonneg : 0 ≤ cap) {previous goal : E}
    (previousBound : ‖previous‖ ≤ bound) (goalBound : ‖goal‖ ≤ bound) :
    ‖approach cap floor previous goal‖ ≤ bound := by
  obtain ⟨t, lower, upper, same⟩ := approach_eq_mean floor nonneg previous goal
  rw [same]
  exact norm_mean_le lower upper previousBound goalBound

omit [NormedSpace ℝ E] in
/-- Steps of at most `cap` stay within `cap * k` over `k` of them. -/
theorem norm_sub_le_of_isChain {cap : ℝ} {xs : List E} (chain : xs.IsChain fun x y => ‖y - x‖ ≤ cap)
    {i : ℕ} {a : E} (first : xs[i]? = some a) :
    ∀ {k : ℕ} {b : E}, xs[i + k]? = some b → ‖b - a‖ ≤ cap * k := by
  intro k
  induction k with
  | zero =>
      intro b last
      obtain rfl := Option.some.inj (first.symm.trans last)
      rw [sub_self, norm_zero, Nat.cast_zero, mul_zero]
  | succ k ih =>
      intro b last
      obtain ⟨inside, atLast⟩ := List.getElem?_eq_some_iff.mp last
      have before : ‖xs[i + k] - a‖ ≤ cap * k :=
        ih (List.getElem?_eq_getElem (Nat.lt_of_succ_lt inside))
      have stepped : ‖b - xs[i + k]‖ ≤ cap := atLast ▸ chain.getElem (i + k) inside
      have joined := norm_add_le (b - xs[i + k]) (xs[i + k] - a)
      rw [sub_add_sub_cancel] at joined
      push_cast
      linarith

section Map

variable {F : Type*} [NormedAddCommGroup F] [NormedSpace ℝ F]

theorem limit_map (along : E →ₗᵢ[ℝ] F) (threshold cap floor : ℝ) (step : E) :
    limit threshold cap floor (along step) = along (limit threshold cap floor step) := by
  simp only [limit, along.norm_map]
  split
  · exact (along.map_smul _ _).symm
  · rfl

theorem approach_map (along : E →ₗᵢ[ℝ] F) (cap floor : ℝ) (previous goal : E) :
    approach cap floor (along previous) (along goal) = along (approach cap floor previous goal) := by
  rw [approach, ← along.map_sub, limit_map, approach, along.map_add]
end Map

end StepLimit
