/-
Turning a unit vector part of the way to another.

Along the arc the angle is the fraction asked for. Along the chord it runs ahead of that
fraction, by no more than the cosine of the whole angle. Angles are between lines: a vector
and any multiple of it have one direction.
-/

import FlexivControl.Library.Scalar
import Mathlib.Analysis.InnerProductSpace.Basic
import Mathlib.Analysis.SpecialFunctions.Trigonometric.Bounds

namespace Slerp

variable {E : Type*} [NormedAddCommGroup E] [InnerProductSpace ℝ E]

noncomputable def lineAngle (a b : E) : ℝ := Real.arccos (|inner ℝ a b| / (‖a‖ * ‖b‖))

theorem lineAngle_smul_right (a b : E) {s : ℝ} (nonzero : s ≠ 0) :
    lineAngle a (s • b) = lineAngle a b := by
  have size : |s| ≠ 0 := abs_ne_zero.mpr nonzero
  unfold lineAngle
  rw [real_inner_smul_right, norm_smul, Real.norm_eq_abs, abs_mul, mul_left_comm,
    mul_div_mul_left _ _ size]

theorem lineAngle_smul_left (a b : E) {s : ℝ} (nonzero : s ≠ 0) :
    lineAngle (s • a) b = lineAngle a b := by
  have size : |s| ≠ 0 := abs_ne_zero.mpr nonzero
  unfold lineAngle
  rw [real_inner_smul_left, norm_smul, Real.norm_eq_abs, abs_mul, mul_assoc,
    mul_div_mul_left _ _ size]

theorem lineAngle_of_unit {a b : E} (unitA : ‖a‖ = 1) (unitB : ‖b‖ = 1) :
    lineAngle a b = Real.arccos |inner ℝ a b| := by
  rw [lineAngle, unitA, unitB, mul_one, div_one]

theorem lineAngle_nonneg (a b : E) : 0 ≤ lineAngle a b := Real.arccos_nonneg _

theorem arc_along {a b : E} {θ : ℝ} (angle : inner ℝ a b = Real.cos θ) (apart : Real.sin θ ≠ 0)
    (φ : ℝ) :
    Real.sin (θ - φ) / Real.sin θ + Real.sin φ / Real.sin θ * inner ℝ a b = Real.cos φ := by
  rw [angle, Real.sin_sub]
  field_simp
  ring

theorem chord_eq_mix (a b : E) (t : ℝ) : a + t • (b - a) = (1 - t) • a + t • b := by
  rw [smul_sub, sub_smul, one_smul]
  abel

section Units

variable {a b : E} (unitA : ‖a‖ = 1) (unitB : ‖b‖ = 1)

include unitA in
theorem inner_mix (b : E) (x y : ℝ) : inner ℝ a (x • a + y • b) = x + y * inner ℝ a b := by
  rw [inner_add_right, real_inner_smul_right, real_inner_smul_right, real_inner_self_eq_norm_sq,
    unitA, one_pow, mul_one]

include unitA unitB

/-- The square of a mixture's length, split along the first vector and across it. -/
theorem norm_mix_sq (x y : ℝ) :
    ‖x • a + y • b‖ ^ 2 = (x + y * inner ℝ a b) ^ 2 + y ^ 2 * (1 - inner ℝ a b ^ 2) := by
  rw [norm_add_sq_real, norm_smul, norm_smul, unitA, unitB, mul_one, mul_one, Real.norm_eq_abs,
    Real.norm_eq_abs, sq_abs, sq_abs, real_inner_smul_left, real_inner_smul_right]
  ring

variable {θ : ℝ} (angle : inner ℝ a b = Real.cos θ) (apart : Real.sin θ ≠ 0)

include angle apart

theorem norm_arc (φ : ℝ) :
    ‖(Real.sin (θ - φ) / Real.sin θ) • a + (Real.sin φ / Real.sin θ) • b‖ = 1 := by
  have square := norm_mix_sq unitA unitB (Real.sin (θ - φ) / Real.sin θ)
    (Real.sin φ / Real.sin θ)
  have across : 1 - inner ℝ a b ^ 2 = Real.sin θ ^ 2 := by
    rw [angle]
    exact (Real.sin_sq θ).symm
  rw [arc_along angle apart, across, div_pow, div_mul_cancel₀ _ (pow_ne_zero 2 apart),
    Real.cos_sq_add_sin_sq] at square
  exact (pow_eq_one_iff_of_nonneg (norm_nonneg _) two_ne_zero).mp square

theorem lineAngle_arc {φ : ℝ} (lower : 0 ≤ φ) (upper : φ ≤ Real.pi / 2) :
    lineAngle a ((Real.sin (θ - φ) / Real.sin θ) • a + (Real.sin φ / Real.sin θ) • b) = φ := by
  have along : 0 ≤ Real.cos φ := Real.cos_nonneg_of_neg_pi_div_two_le_of_le (by linarith) upper
  rw [lineAngle_of_unit unitA (norm_arc unitA unitB angle apart φ), inner_mix unitA,
    arc_along angle apart, abs_of_nonneg along,
    Real.arccos_cos lower (by linarith [Real.pi_pos])]

end Units

section Chord

variable {a b : E} (unitA : ‖a‖ = 1) (unitB : ‖b‖ = 1) {t : ℝ} (lower : 0 ≤ t) (upper : t ≤ 1)
  (near : 0 < inner ℝ a b)

include unitA unitB

theorem inner_le_one : inner ℝ a b ≤ 1 := by
  have bound := real_inner_le_norm a b
  rwa [unitA, unitB, one_mul] at bound

include upper

theorem chord_along : inner ℝ a b ≤ 1 - t + t * inner ℝ a b := by
  have bound := inner_le_one unitA unitB
  nlinarith

theorem inner_chord_le_norm : inner ℝ a b ≤ ‖a + t • (b - a)‖ := by
  have reach := real_inner_le_norm a (a + t • (b - a))
  rw [unitA, one_mul, chord_eq_mix, inner_mix unitA, ← chord_eq_mix] at reach
  exact (chord_along unitA unitB upper).trans reach

include near in
theorem lineAngle_chord :
    lineAngle a (a + t • (b - a)) =
      Real.arccos ((1 - t + t * inner ℝ a b) / ‖a + t • (b - a)‖) := by
  have along := chord_along unitA unitB upper
  have inside : inner ℝ a (a + t • (b - a)) = 1 - t + t * inner ℝ a b := by
    rw [chord_eq_mix, inner_mix unitA]
  unfold lineAngle
  rw [inside, abs_of_pos (near.trans_le along), unitA, one_mul]

include lower

theorem norm_chord_le : ‖a + t • (b - a)‖ ≤ 1 := by
  have bound := inner_le_one unitA unitB
  have square := norm_mix_sq unitA unitB (1 - t) t
  rw [← chord_eq_mix] at square
  rw [← sq_le_one_iff₀ (norm_nonneg _), square]
  nlinarith [mul_nonneg lower (sub_nonneg.mpr upper)]

include near

theorem lineAngle_chord_le : lineAngle a (a + t • (b - a)) ≤ lineAngle a b := by
  have along := chord_along unitA unitB upper
  have length : 0 < ‖a + t • (b - a)‖ :=
    near.trans_le (inner_chord_le_norm unitA unitB upper)
  rw [lineAngle_chord unitA unitB upper near, lineAngle_of_unit unitA unitB,
    abs_of_pos near]
  apply Real.arccos_le_arccos
  rw [le_div_iff₀ length]
  calc
    inner ℝ a b * ‖a + t • (b - a)‖ ≤ inner ℝ a b * 1 :=
      mul_le_mul_of_nonneg_left (norm_chord_le unitA unitB lower upper) near.le
    _ = inner ℝ a b := mul_one _
    _ ≤ 1 - t + t * inner ℝ a b := along

/-- Ahead of its fraction by the cosine at most. -/
theorem lineAngle_chord_le_mul :
    lineAngle a (a + t • (b - a)) ≤ t * lineAngle a b / inner ℝ a b := by
  have along := chord_along unitA unitB upper
  have positive : 0 < 1 - t + t * inner ℝ a b := near.trans_le along
  have length : 0 < ‖a + t • (b - a)‖ :=
    near.trans_le (inner_chord_le_norm unitA unitB upper)
  have square := norm_mix_sq unitA unitB (1 - t) t
  rw [← chord_eq_mix] at square
  have root : √(1 - ((1 - t + t * inner ℝ a b) / ‖a + t • (b - a)‖) ^ 2) =
      t * √(1 - inner ℝ a b ^ 2) / ‖a + t • (b - a)‖ := by
    have inside : 1 - ((1 - t + t * inner ℝ a b) / ‖a + t • (b - a)‖) ^ 2 =
        t ^ 2 * (1 - inner ℝ a b ^ 2) / ‖a + t • (b - a)‖ ^ 2 := by
      rw [eq_div_iff (pow_pos length 2).ne', sub_mul, one_mul, div_pow,
        div_mul_cancel₀ _ (pow_pos length 2).ne', square]
      ring
    rw [inside, Real.sqrt_div' _ (sq_nonneg _), Real.sqrt_sq length.le,
      Real.sqrt_mul (sq_nonneg t), Real.sqrt_sq lower]
  have tangent : Real.tan (lineAngle a (a + t • (b - a))) =
      t * √(1 - inner ℝ a b ^ 2) / (1 - t + t * inner ℝ a b) := by
    rw [lineAngle_chord unitA unitB upper near, Real.tan_arccos, root,
      div_div_div_cancel_right₀ length.ne']
  have sine : √(1 - inner ℝ a b ^ 2) ≤ lineAngle a b := by
    rw [lineAngle_of_unit unitA unitB, abs_of_pos near, ← Real.sin_arccos]
    exact Real.sin_le (Real.arccos_nonneg _)
  have acute : lineAngle a (a + t • (b - a)) < Real.pi / 2 := by
    rw [lineAngle_chord unitA unitB upper near]
    exact Real.arccos_lt_pi_div_two.mpr (div_pos positive length)
  calc
    lineAngle a (a + t • (b - a)) ≤ Real.tan (lineAngle a (a + t • (b - a))) :=
      Real.le_tan (lineAngle_nonneg _ _) acute
    _ = t * √(1 - inner ℝ a b ^ 2) / (1 - t + t * inner ℝ a b) := tangent
    _ ≤ t * lineAngle a b / (1 - t + t * inner ℝ a b) :=
      div_le_div_of_nonneg_right (mul_le_mul_of_nonneg_left sine lower) positive.le
    _ ≤ t * lineAngle a b / inner ℝ a b :=
      div_le_div_of_nonneg_left (mul_nonneg lower (lineAngle_nonneg _ _)) near along

end Chord

end Slerp

namespace Quat

noncomputable def toE (q : Quat ℝ) : EuclideanSpace ℝ (Fin 4) := !₂[q.w, q.x, q.y, q.z]

theorem toE_add (q r : Quat ℝ) : (q + r).toE = q.toE + r.toE := by
  ext i
  fin_cases i <;> rfl

theorem toE_sub (q r : Quat ℝ) : (q - r).toE = q.toE - r.toE := by
  ext i
  fin_cases i <;> rfl

theorem toE_mul (s : ℝ) (q : Quat ℝ) : (s * q).toE = s • q.toE := by
  ext i
  fin_cases i <;> rfl

theorem toE_neg (q : Quat ℝ) : (-q).toE = (-1 : ℝ) • q.toE := by
  ext i
  fin_cases i <;> exact (neg_one_mul _).symm

theorem toE_div (q : Quat ℝ) (s : ℝ) : (q / s).toE = s⁻¹ • q.toE := by
  ext i
  fin_cases i <;> exact (div_eq_mul_inv _ _).trans (mul_comm _ _)

theorem inner_toE (q r : Quat ℝ) : inner ℝ q.toE r.toE = q.dot r := by
  rw [PiLp.inner_apply, Fin.sum_univ_four]
  simp only [toE, PiLp.toLp_apply, Matrix.cons_val_zero, Matrix.cons_val_one, Matrix.cons_val,
    RCLike.inner_apply, conj_trivial, dot]
  ring

theorem norm_toE (q : Quat ℝ) : ‖q.toE‖ = q.norm := by
  rw [norm_eq_sqrt_real_inner, inner_toE]
  rfl

/-- The angle between the rotations two quaternions stand for. -/
noncomputable def geodesicAngle (a b : Quat ℝ) : ℝ :=
  2 * Real.arccos (|a.dot b| / (a.norm * b.norm))

theorem geodesicAngle_eq (a b : Quat ℝ) :
    a.geodesicAngle b = 2 * Slerp.lineAngle a.toE b.toE := by
  rw [geodesicAngle, Slerp.lineAngle, inner_toE, norm_toE, norm_toE]

def UpToSign (a b : Quat ℝ) : Prop := a = b ∨ a = -b

section Entries

variable (q r : Quat ℝ) (s : ℝ)

theorem entries_add : q + r = ⟨q.w + r.w, q.x + r.x, q.y + r.y, q.z + r.z⟩ := rfl

theorem entries_sub : q - r = ⟨q.w - r.w, q.x - r.x, q.y - r.y, q.z - r.z⟩ := rfl

theorem entries_neg : -q = ⟨-q.w, -q.x, -q.y, -q.z⟩ := rfl

theorem entries_scale : s * q = ⟨s * q.w, s * q.x, s * q.y, s * q.z⟩ := rfl

theorem entries_div : q / s = ⟨q.w / s, q.x / s, q.y / s, q.z / s⟩ := rfl

theorem entries_one : (1 : Quat ℝ) = ⟨1, 0, 0, 0⟩ := rfl

end Entries

theorem neg_twice (q : Quat ℝ) : -(-q) = q := by
  simp only [entries_neg, neg_neg]

theorem neg_dot (q r : Quat ℝ) : (-q).dot r = -q.dot r := by
  simp only [dot, entries_neg]
  ring

theorem dot_neg (q r : Quat ℝ) : q.dot (-r) = -q.dot r := by
  simp only [dot, entries_neg]
  ring

theorem UpToSign.refl (q : Quat ℝ) : q.UpToSign q := Or.inl rfl

theorem UpToSign.neg_left {a b : Quat ℝ} (same : a.UpToSign b) : (-a).UpToSign b := by
  rcases same with rfl | rfl
  · exact Or.inr rfl
  · exact Or.inl (neg_twice b)

theorem UpToSign.symm {a b : Quat ℝ} (same : a.UpToSign b) : b.UpToSign a := by
  rcases same with rfl | rfl
  · exact refl _
  · exact Or.inr (neg_twice b).symm

theorem UpToSign.trans {a b c : Quat ℝ} (first : a.UpToSign b) (second : b.UpToSign c) :
    a.UpToSign c := by
  rcases first with rfl | rfl
  · exact second
  · exact second.neg_left

theorem dot_self_of_unit {q : Quat ℝ} (unit : q.norm = 1) : q.dot q = 1 := by
  rwa [norm, Scalar.sqrt_real, Real.sqrt_eq_one] at unit

/-- The two units of a rotation are two. -/
theorem ne_neg_of_unit {q : Quat ℝ} (unit : q.norm = 1) : q ≠ -q := by
  intro same
  have square := dot_self_of_unit unit
  have negated := neg_dot q q
  rw [← same] at negated
  linarith

end Quat
