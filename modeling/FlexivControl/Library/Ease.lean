/-
Following a segment with a cosine ease.

The ease rises from nought to one with speed at most half of pi. A segment cut into
enough ticks is therefore followed in steps as short as a cap asks for.
-/

import Mathlib.Analysis.SpecialFunctions.Trigonometric.Bounds
import Mathlib.Analysis.Convex.Segment

namespace Ease

noncomputable def ease (s : ℝ) : ℝ := 1 / 2 - 1 / 2 * Real.cos (Real.pi * s)

@[simp] theorem ease_zero : ease 0 = 0 := by
  rw [ease, mul_zero, Real.cos_zero]
  norm_num

@[simp] theorem ease_one : ease 1 = 1 := by
  rw [ease, mul_one, Real.cos_pi]
  norm_num

theorem ease_nonneg (s : ℝ) : 0 ≤ ease s := by
  have bound := Real.cos_le_one (Real.pi * s)
  rw [ease]
  linarith

theorem ease_le_one (s : ℝ) : ease s ≤ 1 := by
  have bound := Real.neg_one_le_cos (Real.pi * s)
  rw [ease]
  linarith

theorem ease_le_ease {s t : ℝ} (lower : 0 ≤ s) (ordered : s ≤ t) (upper : t ≤ 1) :
    ease s ≤ ease t := by
  have falls : Real.cos (Real.pi * t) ≤ Real.cos (Real.pi * s) := by
    apply Real.cos_le_cos_of_nonneg_of_le_pi
    · exact mul_nonneg Real.pi_pos.le lower
    · nlinarith [Real.pi_pos]
    · exact mul_le_mul_of_nonneg_left ordered Real.pi_pos.le
  rw [ease, ease]
  linarith

theorem ease_pos {s : ℝ} (lower : 0 < s) (upper : s ≤ 1) : 0 < ease s := by
  have falls : Real.cos (Real.pi * s) < Real.cos 0 := by
    apply Real.cos_lt_cos_of_nonneg_of_le_pi le_rfl
    · nlinarith [Real.pi_pos]
    · exact mul_pos Real.pi_pos lower
  rw [Real.cos_zero] at falls
  rw [ease]
  linarith

theorem ease_lt_one {s : ℝ} (lower : 0 ≤ s) (upper : s < 1) : ease s < 1 := by
  have above : Real.cos Real.pi < Real.cos (Real.pi * s) := by
    apply Real.cos_lt_cos_of_nonneg_of_le_pi _ le_rfl
    · nlinarith [Real.pi_pos]
    · exact mul_nonneg Real.pi_pos.le lower
  rw [Real.cos_pi] at above
  rw [ease]
  linarith

theorem abs_ease_sub_le (s t : ℝ) : |ease s - ease t| ≤ Real.pi / 2 * |s - t| := by
  have halved : ease s - ease t = (Real.cos (Real.pi * t) - Real.cos (Real.pi * s)) / 2 := by
    rw [ease, ease]
    ring
  have lipschitz := Real.abs_cos_sub_cos_le (Real.pi * t) (Real.pi * s)
  rw [← mul_sub, abs_mul, abs_of_pos Real.pi_pos, abs_sub_comm t s] at lipschitz
  rw [halved, abs_div, abs_two]
  linarith

/-- The step from one of `n` ticks to the next. -/
theorem abs_ease_tick_le (n k : ℕ) (positive : 0 < n) :
    |ease ((k + 1 : ℕ) / n) - ease (k / n)| ≤ Real.pi / 2 / n := by
  have ticks : (0 : ℝ) < n := Nat.cast_pos.mpr positive
  have step : ((k + 1 : ℕ) : ℝ) / n - k / n = 1 / n := by
    push_cast
    ring
  have bound := abs_ease_sub_le ((k + 1 : ℕ) / n) (k / n)
  rw [step, abs_of_pos (one_div_pos.mpr ticks), mul_one_div] at bound
  exact bound

theorem ease_tick {n : ℕ} (positive : 0 < n) (k : ℕ) :
    ease ((k + 1 : ℕ) / n) - ease (k / n) =
      Real.sin (Real.pi / (2 * n)) * Real.sin (Real.pi * (2 * k + 1) / (2 * n)) := by
  have ticks : (n : ℝ) ≠ 0 := Nat.cast_ne_zero.mpr positive.ne'
  have halved : ease ((k + 1 : ℕ) / n) - ease (k / n) =
      (Real.cos (Real.pi * (k / n)) - Real.cos (Real.pi * ((k + 1 : ℕ) / n))) / 2 := by
    rw [ease, ease]
    ring
  have middle : (Real.pi * (k / n) + Real.pi * ((k + 1 : ℕ) / n)) / 2 =
      Real.pi * (2 * k + 1) / (2 * n) := by
    push_cast
    field_simp
    ring
  have width : (Real.pi * (k / n) - Real.pi * ((k + 1 : ℕ) / n)) / 2 = -(Real.pi / (2 * n)) := by
    push_cast
    field_simp
    ring
  rw [halved, Real.cos_sub_cos, middle, width, Real.sin_neg]
  ring

/-- The longest of `n` ticks: an odd number has one in the middle, an even number two beside
it. -/
noncomputable def peakTick (n : ℕ) : ℝ :=
  if n % 2 = 1 then Real.sin (Real.pi / (2 * n)) else Real.sin (Real.pi / n) / 2

theorem peakTick_even {n : ℕ} (even : n % 2 ≠ 1) :
    peakTick n = Real.sin (Real.pi / (2 * n)) * Real.cos (Real.pi / (2 * n)) := by
  have doubled : Real.pi / n = 2 * (Real.pi / (2 * n)) := by
    rw [mul_div_assoc', mul_div_mul_left _ _ two_ne_zero]
  rw [peakTick, if_neg even, doubled, Real.sin_two_mul]
  ring

theorem sin_half_tick_nonneg (n : ℕ) : 0 ≤ Real.sin (Real.pi / (2 * n)) := by
  apply Real.sin_nonneg_of_nonneg_of_le_pi
  · positivity
  · cases n with
    | zero =>
        rw [Nat.cast_zero, mul_zero, div_zero]
        exact Real.pi_pos.le
    | succ n =>
        rw [div_le_iff₀ (by positivity)]
        push_cast
        nlinarith [Real.pi_pos, Nat.cast_nonneg (α := ℝ) n]

theorem ease_tick_nonneg {n k : ℕ} (inside : k < n) :
    0 ≤ ease ((k + 1 : ℕ) / n) - ease (k / n) := by
  have positive : 0 < n := Nat.zero_lt_of_lt inside
  have ticks : (0 : ℝ) < n := Nat.cast_pos.mpr positive
  have before : (k : ℝ) + 1 ≤ n := by exact_mod_cast inside
  rw [ease_tick positive]
  apply mul_nonneg (sin_half_tick_nonneg n)
  apply Real.sin_nonneg_of_nonneg_of_le_pi
  · positivity
  · rw [div_le_iff₀ (by positivity)]
    nlinarith [Real.pi_pos]

theorem ease_tick_le_peak {n k : ℕ} (inside : k < n) :
    ease ((k + 1 : ℕ) / n) - ease (k / n) ≤ peakTick n := by
  have positive : 0 < n := Nat.zero_lt_of_lt inside
  have ticks : (0 : ℝ) < n := Nat.cast_pos.mpr positive
  have nonneg := sin_half_tick_nonneg n
  rw [ease_tick positive]
  by_cases odd : n % 2 = 1
  · rw [peakTick, if_pos odd]
    exact mul_le_of_le_one_right nonneg (Real.sin_le_one _)
  · -- the middle of an even number of ticks falls between two of them
    rw [peakTick_even odd]
    apply mul_le_mul_of_nonneg_left _ nonneg
    have shifted : Real.sin (Real.pi * (2 * k + 1) / (2 * n)) =
        Real.cos |Real.pi / 2 - Real.pi * (2 * k + 1) / (2 * n)| := by
      rw [Real.cos_abs, Real.cos_pi_div_two_sub]
    have gap : Real.pi / 2 - Real.pi * (2 * k + 1) / (2 * n) =
        Real.pi * ((n : ℤ) - 2 * k - 1 : ℤ) / (2 * n) := by
      push_cast
      field_simp
      ring
    have apart : (1 : ℝ) ≤ |(((n : ℤ) - 2 * k - 1 : ℤ) : ℝ)| := by
      have other : (n : ℤ) - 2 * k - 1 ≠ 0 := by omega
      exact_mod_cast Int.one_le_abs other
    have below : |(((n : ℤ) - 2 * k - 1 : ℤ) : ℝ)| ≤ n := by
      have bound : |(n : ℤ) - 2 * k - 1| ≤ n := by
        rw [abs_le]
        omega
      exact_mod_cast bound
    rw [shifted, gap, abs_div, abs_mul, abs_of_pos Real.pi_pos,
      abs_of_pos (by positivity : (0 : ℝ) < 2 * n)]
    apply Real.cos_le_cos_of_nonneg_of_le_pi
    · positivity
    · rw [div_le_iff₀ (by positivity)]
      nlinarith [Real.pi_pos]
    · apply div_le_div_of_nonneg_right _ (by positivity)
      nlinarith [Real.pi_pos]

theorem exists_ease_tick_peak {n : ℕ} (positive : 0 < n) :
    ∃ k, k < n ∧ ease ((k + 1 : ℕ) / n) - ease (k / n) = peakTick n := by
  have ticks : (n : ℝ) ≠ 0 := Nat.cast_ne_zero.mpr positive.ne'
  by_cases odd : n % 2 = 1
  · refine ⟨n / 2, by omega, ?_⟩
    have middle : 2 * ((n / 2 : ℕ) : ℝ) + 1 = n := by
      have whole : 2 * (n / 2) + 1 = n := by omega
      exact_mod_cast whole
    have top : Real.pi * n / (2 * n) = Real.pi / 2 := by field_simp
    rw [ease_tick positive, middle, top, Real.sin_pi_div_two, mul_one, peakTick, if_pos odd]
  · refine ⟨n / 2, by omega, ?_⟩
    have middle : 2 * ((n / 2 : ℕ) : ℝ) + 1 = n + 1 := by
      have whole : 2 * (n / 2) + 1 = n + 1 := by omega
      exact_mod_cast whole
    have beside : Real.pi * (n + 1) / (2 * n) = Real.pi / (2 * n) + Real.pi / 2 := by
      field_simp
      ring
    rw [ease_tick positive, middle, beside, Real.sin_add_pi_div_two, peakTick_even odd]

theorem peakTick_pos {n : ℕ} (positive : 0 < n) : 0 < peakTick n := by
  have ticks : (1 : ℝ) ≤ n := by exact_mod_cast positive
  by_cases odd : n % 2 = 1
  · rw [peakTick, if_pos odd]
    apply Real.sin_pos_of_pos_of_lt_pi
    · positivity
    · rw [div_lt_iff₀ (by positivity)]
      nlinarith [Real.pi_pos]
  · have two : (2 : ℝ) ≤ n := by
      have more : 2 ≤ n := by omega
      exact_mod_cast more
    rw [peakTick, if_neg odd]
    apply half_pos
    apply Real.sin_pos_of_pos_of_lt_pi
    · positivity
    · rw [div_lt_iff₀ (by positivity)]
      nlinarith [Real.pi_pos]

theorem peakTick_le {n : ℕ} (positive : 0 < n) : peakTick n ≤ Real.pi / 2 / n := by
  obtain ⟨k, _, longest⟩ := exists_ease_tick_peak positive
  rw [← longest]
  exact (le_abs_self _).trans (abs_ease_tick_le n k positive)

section Segments

variable {E : Type*} [AddCommGroup E] [Module ℝ E]

/-- The point of the segment after `k` of `n` ticks. -/
noncomputable def along (a b : E) (n k : ℕ) : E := a + ease (k / n) • (b - a)

@[simp] theorem along_zero (a b : E) (n : ℕ) : along a b n 0 = a := by
  rw [along, Nat.cast_zero, zero_div, ease_zero, zero_smul, add_zero]

theorem along_last (a b : E) {n : ℕ} (positive : 0 < n) : along a b n n = b := by
  rw [along, div_self (Nat.cast_ne_zero.mpr positive.ne'), ease_one, one_smul,
    add_sub_cancel]

/-- The points of `n` ticks, without the start. -/
noncomputable def walk (a b : E) (n : ℕ) : List E := (List.range n).map fun k => along a b n (k + 1)

theorem cons_walk (a b : E) (n : ℕ) :
    a :: walk a b n = (List.range (n + 1)).map (along a b n) := by
  rw [walk, List.range_succ_eq_map, List.map_cons, List.map_map, along_zero]
  rfl

theorem walk_last (a b : E) {n : ℕ} (positive : 0 < n) : (walk a b n).getLast? = some b := by
  cases n with
  | zero => omega
  | succ n =>
      rw [walk, List.range_succ, List.map_append, List.map_singleton, List.getLast?_concat,
        along_last a b positive]

end Segments

section Steps

variable {E : Type*} [NormedAddCommGroup E] [NormedSpace ℝ E]

/-- With ticks for the ease's peak speed, no step is longer than the cap. -/
theorem norm_along_sub_le {a b : E} {n : ℕ} (k : ℕ) (positive : 0 < n) {bound cap : ℝ}
    (capped : 0 < cap) (covers : ‖b - a‖ ≤ bound)
    (enough : Real.pi / 2 * bound / cap ≤ n) :
    ‖along a b n (k + 1) - along a b n k‖ ≤ cap := by
  have ticks : (0 : ℝ) < n := Nat.cast_pos.mpr positive
  have step : along a b n (k + 1) - along a b n k =
      (ease ((k + 1 : ℕ) / n) - ease (k / n)) • (b - a) := by
    rw [along, along, add_sub_add_left_eq_sub, sub_smul]
  have small : Real.pi / 2 * bound / n ≤ cap := by
    rw [div_le_iff₀ capped] at enough
    rw [div_le_iff₀ ticks]
    linarith
  rw [step, norm_smul, Real.norm_eq_abs]
  calc |ease ((k + 1 : ℕ) / n) - ease (k / n)| * ‖b - a‖
      ≤ Real.pi / 2 / n * bound :=
        mul_le_mul (abs_ease_tick_le n k positive) covers (norm_nonneg _)
          (div_nonneg (div_nonneg Real.pi_pos.le zero_le_two) ticks.le)
    _ = Real.pi / 2 * bound / n := by ring
    _ ≤ cap := small

theorem walk_isChain {a b : E} {n : ℕ} (positive : 0 < n) {bound cap : ℝ} (capped : 0 < cap)
    (covers : ‖b - a‖ ≤ bound) (enough : Real.pi / 2 * bound / cap ≤ n) :
    (a :: walk a b n).IsChain fun x y => ‖y - x‖ ≤ cap := by
  rw [cons_walk, List.isChain_map, List.isChain_range_succ]
  intro k _
  exact norm_along_sub_le k positive capped covers enough

end Steps

/-- Steps along one list and on along a second that starts where the first ends. -/
theorem isChain_cons_append {α : Type*} {R : α → α → Prop} {xs ys : List α} {y : α} :
    ∀ {x : α}, (x :: xs).IsChain R → xs.getLast? = some y → (y :: ys).IsChain R →
      (x :: (xs ++ ys)).IsChain R := by
  induction xs with
  | nil =>
      intro x _ none
      cases none
  | cons next rest ih =>
      intro x first last second
      rw [List.isChain_cons_cons] at first
      rw [List.cons_append, List.isChain_cons_cons]
      refine ⟨first.1, ?_⟩
      cases rest with
      | nil =>
          cases last
          exact second
      | cons _ _ =>
          rw [List.getLast?_cons_cons] at last
          exact ih first.2 last second

theorem getLast?_append_of {α : Type*} {y : α} {xs : List α} (last : xs.getLast? = some y)
    {ys zs : List α} (same : ys.getLast? = zs.getLast?) :
    (xs ++ ys).getLast? = (y :: zs).getLast? := by
  rw [List.getLast?_append, last, List.getLast?_cons, same]
  cases zs.getLast? <;> rfl

end Ease
