/-
A first-order tracker: each step goes a fixed fraction of the way to where it is told.
-/

import Mathlib.Analysis.Normed.Module.Basic
import Mathlib.Tactic.Module

namespace FirstOrder

/-- How far the tracker stays behind commands that move by at most `step` at a time. -/
noncomputable def lag (a step : ℝ) : ℝ := (1 - a) / a * step

theorem lag_nonneg {a step : ℝ} (positive : 0 < a) (upper : a ≤ 1) (nonneg : 0 ≤ step) :
    0 ≤ lag a step :=
  mul_nonneg (div_nonneg (sub_nonneg.mpr upper) positive.le) nonneg

variable {E : Type} [NormedAddCommGroup E] {a step : ℝ} {ref x u : E}

theorem norm_command_sub_le (positive : 0 < a) (behind : ‖ref - x‖ ≤ lag a step)
    (short : ‖u - ref‖ ≤ step) : ‖u - x‖ ≤ step / a := by
  have apart : ‖u - x‖ ≤ ‖u - ref‖ + ‖ref - x‖ := by
    rw [← sub_add_sub_cancel u ref x]
    exact norm_add_le _ _
  have total : step + lag a step = step / a := by
    rw [lag]
    field_simp
    ring
  linarith

variable [NormedSpace ℝ E]

noncomputable def track (a : ℝ) (x u : E) : E := (1 - a) • x + a • u

theorem sub_track (a : ℝ) (x u : E) : u - track a x u = (1 - a) • (u - x) := by
  unfold track
  module

theorem track_sub (a : ℝ) (x u : E) : track a x u - x = a • (u - x) := by
  unfold track
  module

/-- The lag is an invariant of every step. -/
theorem norm_sub_track_le (positive : 0 < a) (upper : a ≤ 1) (behind : ‖ref - x‖ ≤ lag a step)
    (short : ‖u - ref‖ ≤ step) : ‖u - track a x u‖ ≤ lag a step := by
  have apart := norm_command_sub_le positive behind short
  rw [sub_track, norm_smul, Real.norm_of_nonneg (sub_nonneg.mpr upper)]
  calc (1 - a) * ‖u - x‖ ≤ (1 - a) * (step / a) :=
        mul_le_mul_of_nonneg_left apart (sub_nonneg.mpr upper)
    _ = lag a step := by
        rw [lag]
        ring

theorem norm_track_sub_le (positive : 0 < a) (behind : ‖ref - x‖ ≤ lag a step)
    (short : ‖u - ref‖ ≤ step) : ‖track a x u - x‖ ≤ step := by
  have apart := norm_command_sub_le positive behind short
  rw [track_sub, norm_smul, Real.norm_of_nonneg positive.le]
  calc a * ‖u - x‖ ≤ a * (step / a) := mul_le_mul_of_nonneg_left apart positive.le
    _ = step := mul_div_cancel₀ step positive.ne'

end FirstOrder
