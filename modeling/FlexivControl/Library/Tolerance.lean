/-
Clipping a coordinate to an interval, and the coordinates a relative tolerance
accepts as already clipped.

The accepted coordinates form an interval of their own, a little wider than the
given one, so a point between two accepted points is accepted. Nothing here
assumes that the interval's ends are in order.
-/

import Mathlib.Algebra.Order.Field.Basic
import Mathlib.Tactic.Linarith
import Mathlib.Tactic.Ring

namespace Tolerance

section Order

variable {K : Type*} [LinearOrder K]

def clip (lower upper x : K) : K := min (max x lower) upper

theorem clip_of_gt {lower upper x : K} (above : upper < x) : clip lower upper x = upper :=
  min_eq_right (le_trans above.le (le_max_left _ _))

theorem clip_of_lt {lower upper x : K} (below : x < min lower upper) :
    clip lower upper x = min lower upper := by
  rw [clip, max_eq_right (le_trans below.le (min_le_left _ _))]

theorem clip_of_between {lower upper x : K} (above : min lower upper ≤ x) (below : x ≤ upper) :
    clip lower upper x = x := by
  rcases le_total lower upper with ordered | reversed
  · rw [min_eq_left ordered] at above
    rw [clip, max_eq_left above, min_eq_left below]
  · rw [min_eq_right reversed] at above
    have same : x = upper := le_antisymm below above
    rw [clip, same, min_eq_right (le_max_left _ _)]

end Order

variable {K : Type*} [Field K] [LinearOrder K] [IsStrictOrderedRing K]

def excess (lower upper x : K) : K := |clip lower upper x - x|

def Accepts (atol rtol lower upper x : K) : Prop :=
  excess lower upper x ≤ atol + rtol * |x|

theorem excess_of_gt {lower upper x : K} (above : upper < x) :
    excess lower upper x = x - upper := by
  rw [excess, clip_of_gt above, abs_sub_comm, abs_of_pos (sub_pos.mpr above)]

theorem excess_of_lt {lower upper x : K} (below : x < min lower upper) :
    excess lower upper x = min lower upper - x := by
  rw [excess, clip_of_lt below, abs_of_pos (sub_pos.mpr below)]

theorem excess_of_between {lower upper x : K} (above : min lower upper ≤ x) (below : x ≤ upper) :
    excess lower upper x = 0 := by
  rw [excess, clip_of_between above below, sub_self, abs_zero]

theorem excess_nonneg (lower upper x : K) : 0 ≤ excess lower upper x := abs_nonneg _

theorem excess_clip (lower upper x : K) : excess lower upper (clip lower upper x) = 0 := by
  rcases lt_or_ge upper x with above | below
  · rw [clip_of_gt above]
    exact excess_of_between (min_le_right _ _) (le_refl _)
  · rcases lt_or_ge x (min lower upper) with low | inside
    · rw [clip_of_lt low]
      exact excess_of_between (le_refl _) (min_le_right _ _)
    · rw [clip_of_between inside below]
      exact excess_of_between inside below

section Accepted

variable {atol rtol : K} (atolNonneg : 0 ≤ atol) (rtolNonneg : 0 ≤ rtol) (rtolSmall : rtol < 1)
include atolNonneg rtolNonneg

theorem accepts_of_excess_zero {lower upper x : K} (inside : excess lower upper x = 0) :
    Accepts atol rtol lower upper x := by
  rw [Accepts, inside]
  exact add_nonneg atolNonneg (mul_nonneg rtolNonneg (abs_nonneg _))

theorem accepts_clip (lower upper x : K) : Accepts atol rtol lower upper (clip lower upper x) :=
  accepts_of_excess_zero atolNonneg rtolNonneg (excess_clip lower upper x)

theorem accepts_iff (lower upper x : K) :
    Accepts atol rtol lower upper x ↔
      min lower upper - atol ≤ x + rtol * |x| ∧ x - rtol * |x| ≤ upper + atol := by
  have slack : 0 ≤ rtol * |x| := mul_nonneg rtolNonneg (abs_nonneg x)
  have ends : min lower upper ≤ upper := min_le_right _ _
  rcases lt_or_ge upper x with above | below
  · rw [Accepts, excess_of_gt above]
    constructor
    · intro near
      exact ⟨by linarith, by linarith⟩
    · rintro ⟨_, high⟩
      linarith
  · rcases lt_or_ge x (min lower upper) with low | inside
    · rw [Accepts, excess_of_lt low]
      constructor
      · intro near
        exact ⟨by linarith, by linarith⟩
      · rintro ⟨bottom, _⟩
        linarith
    · rw [Accepts, excess_of_between inside below]
      constructor
      · intro _
        exact ⟨by linarith, by linarith⟩
      · intro _
        linarith

/-- What an interval accepts a wider one accepts. -/
theorem Accepts.widen {lower upper lower' upper' x : K} (near : Accepts atol rtol lower upper x)
    (below : lower' ≤ lower) (ordered : lower ≤ upper) (above : upper ≤ upper') :
    Accepts atol rtol lower' upper' x := by
  rw [accepts_iff atolNonneg rtolNonneg] at near ⊢
  have least : min lower' upper' ≤ min lower upper :=
    le_trans (min_le_left _ _) (le_min below (below.trans ordered))
  exact ⟨by linarith [near.1], by linarith [near.2]⟩

include rtolSmall

omit atolNonneg in
theorem add_scaled_abs_le {x y : K} (ordered : x ≤ y) : x + rtol * |x| ≤ y + rtol * |y| := by
  have change : |x| - |y| ≤ |x - y| := abs_sub_abs_le_abs_sub x y
  rw [abs_sub_comm, abs_of_nonneg (sub_nonneg.mpr ordered)] at change
  have scaled : rtol * (|x| - |y|) ≤ rtol * (y - x) := mul_le_mul_of_nonneg_left change rtolNonneg
  have reduced : rtol * (y - x) ≤ 1 * (y - x) :=
    mul_le_mul_of_nonneg_right rtolSmall.le (sub_nonneg.mpr ordered)
  linarith [mul_sub rtol |x| |y|]

omit atolNonneg in
theorem sub_scaled_abs_le {x y : K} (ordered : x ≤ y) : x - rtol * |x| ≤ y - rtol * |y| := by
  have change : |y| - |x| ≤ |y - x| := abs_sub_abs_le_abs_sub y x
  rw [abs_of_nonneg (sub_nonneg.mpr ordered)] at change
  have scaled : rtol * (|y| - |x|) ≤ rtol * (y - x) := mul_le_mul_of_nonneg_left change rtolNonneg
  have reduced : rtol * (y - x) ≤ 1 * (y - x) :=
    mul_le_mul_of_nonneg_right rtolSmall.le (sub_nonneg.mpr ordered)
  linarith [mul_sub rtol |y| |x|]

theorem accepts_of_between {lower upper x y z : K}
    (left : Accepts atol rtol lower upper x) (right : Accepts atol rtol lower upper y)
    (from_left : x ≤ z) (to_right : z ≤ y) : Accepts atol rtol lower upper z := by
  rw [accepts_iff atolNonneg rtolNonneg] at left right ⊢
  have low := add_scaled_abs_le rtolNonneg rtolSmall from_left
  have high := sub_scaled_abs_le rtolNonneg rtolSmall to_right
  exact ⟨by linarith [left.1], by linarith [right.2]⟩

/-- Moving from any `x` toward an accepted goal: the excess never passes the
larger of where it started and the tolerance where it stops. -/
theorem excess_toward_accepted {lower upper x goal z : K}
    (accepted : Accepts atol rtol lower upper goal)
    (between : (x ≤ z ∧ z ≤ goal) ∨ (goal ≤ z ∧ z ≤ x)) :
    excess lower upper z ≤ max (excess lower upper x) (atol + rtol * |z|) := by
  by_cases settled : Accepts atol rtol lower upper z
  · exact le_max_of_le_right settled
  · apply le_max_of_le_left
    -- `z` is outside the accepted interval, so the goal is on its inner side and `x` further out
    rw [accepts_iff atolNonneg rtolNonneg, not_and_or, not_le, not_le] at settled
    rw [accepts_iff atolNonneg rtolNonneg] at accepted
    have slack : 0 ≤ rtol * |z| := mul_nonneg rtolNonneg (abs_nonneg z)
    have ends : min lower upper ≤ upper := min_le_right _ _
    rcases settled with low | high
    · have below : z < min lower upper := by linarith
      rcases between with ⟨from_x, _⟩ | ⟨from_goal, _⟩
      · rw [excess_of_lt below, excess_of_lt (lt_of_le_of_lt from_x below)]
        linarith
      · have order := add_scaled_abs_le rtolNonneg rtolSmall from_goal
        exact absurd accepted.1 (by linarith)
    · have above : upper < z := by linarith
      rcases between with ⟨_, to_goal⟩ | ⟨_, to_x⟩
      · have order := sub_scaled_abs_le rtolNonneg rtolSmall to_goal
        exact absurd accepted.2 (by linarith)
      · rw [excess_of_gt above, excess_of_gt (lt_of_lt_of_le above to_x)]
        linarith

end Accepted

/-- A point `x + t * (y - x)` with `t` in the unit interval lies between its ends. -/
theorem between_of_unit {x y t : K} (lower : 0 ≤ t) (upper : t ≤ 1) :
    (x ≤ x + t * (y - x) ∧ x + t * (y - x) ≤ y) ∨
      (y ≤ x + t * (y - x) ∧ x + t * (y - x) ≤ x) := by
  rcases le_total x y with rising | falling
  · left
    have gap : 0 ≤ y - x := sub_nonneg.mpr rising
    have scaled : t * (y - x) ≤ 1 * (y - x) := mul_le_mul_of_nonneg_right upper gap
    exact ⟨by linarith [mul_nonneg lower gap], by linarith⟩
  · right
    have gap : 0 ≤ x - y := sub_nonneg.mpr falling
    have scaled : t * (x - y) ≤ 1 * (x - y) := mul_le_mul_of_nonneg_right upper gap
    have flipped : t * (y - x) = -(t * (x - y)) := by ring
    exact ⟨by linarith, by linarith [mul_nonneg lower gap]⟩

end Tolerance
