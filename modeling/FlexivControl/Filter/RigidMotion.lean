/-
Relative chunks against the absolute ones they are resolved to.

Composing on the start pose commutes with normalising, interpolating and counting ticks, up
to the sign of a quaternion. It does not commute with holding: a resolved chunk holds the
start orientation, an absolute one the orientation reached.
-/

import FlexivControl.Core.Resolution
import FlexivControl.Filter.AngularLimit
import FlexivControl.Wire.RoundTrip

namespace FlexivControl

open Slerp Ease

theorem quatMul_upToSign (s : Quat ℝ) {a b : Quat ℝ} (same : a.UpToSign b) :
    (quatMul s a).UpToSign (quatMul s b) := by
  rcases same with rfl | rfl
  · exact Quat.UpToSign.refl _
  · right
    simp only [quatMul, Quat.entries_neg]
    ext <;> ring

section Products

variable (s a b : Quat ℝ)

theorem quatMul_add : quatMul s (a + b) = quatMul s a + quatMul s b := by
  simp only [quatMul, Quat.entries_add]
  ext <;> ring

theorem quatMul_sub : quatMul s (a - b) = quatMul s a - quatMul s b := by
  simp only [quatMul, Quat.entries_sub]
  ext <;> ring

theorem quatMul_scale (c : ℝ) : quatMul s (c * a) = c * quatMul s a := by
  simp only [quatMul, Quat.entries_scale]
  ext <;> ring

theorem quatMul_div (c : ℝ) : quatMul s (a / c) = quatMul s a / c := by
  simp only [quatMul, Quat.entries_div]
  ext <;> ring

theorem quatMul_one : quatMul s 1 = s := by
  simp only [quatMul, Quat.entries_one]
  ext <;> ring

theorem quatMul_dot : (quatMul s a).dot (quatMul s b) = s.dot s * a.dot b := by
  simp only [quatMul, Quat.dot]
  ring

variable {s}

theorem quatMul_norm (unit : s.norm = 1) : (quatMul s a).norm = a.norm := by
  rw [Quat.norm, Quat.norm, quatMul_dot, Quat.dot_self_of_unit unit, one_mul]

theorem quatMul_dot_of_unit (unit : s.norm = 1) : (quatMul s a).dot (quatMul s b) = a.dot b := by
  rw [quatMul_dot, Quat.dot_self_of_unit unit, one_mul]

end Products

theorem quatNormalize_of_long {q : Quat ℝ} (long : eps ≤ q.norm) :
    (quatNormalize q).UpToSign (q / q.norm) := by
  unfold quatNormalize
  dsimp only
  rw [if_neg (not_lt.mpr long)]
  split
  · exact Or.inr rfl
  · exact Or.inl rfl

theorem quatNormalize_of_norm_one {q : Quat ℝ} (unit : q.norm = 1) :
    (quatNormalize q).UpToSign q := by
  have long : eps ≤ q.norm := by
    rw [unit, eps_real]
    norm_num
  have whole := quatNormalize_of_long long
  rw [unit] at whole
  simpa only [Quat.entries_div, div_one] using whole

theorem quatNormalize_mul {s q : Quat ℝ} (unit : s.norm = 1) (long : eps ≤ q.norm) :
    (quatNormalize (quatMul s q)).UpToSign (quatMul s (quatNormalize q)) := by
  have turned := quatNormalize_of_long (long.trans_eq (quatMul_norm q unit).symm)
  rw [quatMul_norm q unit, ← quatMul_div] at turned
  exact turned.trans (quatMul_upToSign s (quatNormalize_of_long long).symm)

theorem quatNormalize_neg {q : Quat ℝ} (long : eps ≤ q.norm) :
    (quatNormalize (-q)).UpToSign (quatNormalize q) := by
  have negated := quatNormalize_of_long (long.trans_eq (Quat.norm_neg q).symm)
  rw [Quat.norm_neg] at negated
  have same : -q / q.norm = -(q / q.norm) := by
    simp only [Quat.entries_div, Quat.entries_neg, neg_div]
  rw [same] at negated
  exact negated.trans (quatNormalize_of_long long).symm.neg_left

/-! ### Interpolating commutes with turning -/

noncomputable def nearer (u v : Quat ℝ) : Quat ℝ := if u.dot v < 0 then -v else v

noncomputable def quatBetween (u near : Quat ℝ) (t : ℝ) : Quat ℝ :=
  if Scalar.ofRat (9995 / 10000) < u.dot near then u + t * (near - u)
  else
    (Real.sin (Real.arccos (u.dot near) - Real.arccos (u.dot near) * t) /
      Real.sin (Real.arccos (u.dot near))) * u +
    (Real.sin (Real.arccos (u.dot near) * t) / Real.sin (Real.arccos (u.dot near))) * near

theorem nearer_spec (u v : Quat ℝ) : 0 ≤ u.dot (nearer u v) ∧ (nearer u v).UpToSign v := by
  unfold nearer
  split
  · rename_i far
    rw [Quat.dot_neg]
    exact ⟨by linarith, Or.inr rfl⟩
  · rename_i near
    exact ⟨not_lt.mp near, Or.inl rfl⟩

theorem nearer_norm (u v : Quat ℝ) : (nearer u v).norm = v.norm := by
  rcases (nearer_spec u v).2 with same | same
  · rw [same]
  · rw [same, Quat.norm_neg]

theorem quatSlerp_eq (a b : Quat ℝ) (t : ℝ) :
    quatSlerp a b t = quatNormalize
      (quatBetween (quatNormalize a) (nearer (quatNormalize a) (quatNormalize b)) t) := by
  have unitA := quatNormalize_unit a
  have bound : (quatNormalize a).dot (nearer (quatNormalize a) (quatNormalize b)) ≤ 1 := by
    have unitN : ‖(nearer (quatNormalize a) (quatNormalize b)).toE‖ = 1 := by
      rw [Quat.norm_toE, nearer_norm]
      exact (quatNormalize_spec b).1
    exact (abs_le.mp (abs_dot_le_one unitA unitN)).2
  have facing := (nearer_spec (quatNormalize a) (quatNormalize b)).1
  have chosen : (if (quatNormalize a).dot (quatNormalize b) < 0 then
      (-quatNormalize b, -(quatNormalize a).dot (quatNormalize b))
      else (quatNormalize b, (quatNormalize a).dot (quatNormalize b))) =
      (nearer (quatNormalize a) (quatNormalize b),
        (quatNormalize a).dot (nearer (quatNormalize a) (quatNormalize b))) := by
    unfold nearer
    split
    · rw [Quat.dot_neg]
    · rfl
  unfold quatSlerp
  dsimp only
  rw [chosen]
  dsimp only
  rw [Scalar.greater_real, Scalar.lesser_real, max_eq_right (by linarith), min_eq_right bound]
  unfold quatBetween
  split
  · rfl
  · rfl

section Between

variable {s u v : Quat ℝ} {t : ℝ}

theorem quatBetween_mul (unit : s.norm = 1) :
    quatBetween (quatMul s u) (quatMul s v) t = quatMul s (quatBetween u v t) := by
  unfold quatBetween
  rw [quatMul_dot_of_unit _ _ unit]
  split
  · rw [quatMul_add, quatMul_scale, quatMul_sub]
  · rw [quatMul_add, quatMul_scale, quatMul_scale]

theorem quatBetween_neg : quatBetween (-u) (-v) t = -quatBetween u v t := by
  have same : (-u).dot (-v) = u.dot v := by
    rw [Quat.neg_dot, Quat.dot_neg, neg_neg]
  unfold quatBetween
  rw [same]
  split
  · simp only [Quat.entries_add, Quat.entries_sub, Quat.entries_neg, Quat.entries_scale]
    ext <;> ring
  · simp only [Quat.entries_add, Quat.entries_neg, Quat.entries_scale]
    ext <;> ring

theorem quatBetween_long (unitU : u.norm = 1) (unitV : v.norm = 1) (facing : 0 ≤ u.dot v)
    (lower : 0 ≤ t) (upper : t ≤ 1) : eps ≤ (quatBetween u v t).norm := by
  have sizeU : ‖u.toE‖ = 1 := (Quat.norm_toE u).trans unitU
  have sizeV : ‖v.toE‖ = 1 := (Quat.norm_toE v).trans unitV
  have threshold : (Scalar.ofRat (9995 / 10000) : ℝ) = 9995 / 10000 := by
    rw [Scalar.ofRat_real]
    norm_num
  unfold quatBetween
  rw [threshold]
  split
  · rename_i close
    exact (parallel_turn sizeU sizeV lower upper close).1
  · rename_i apart
    obtain ⟨unit, _⟩ := arc_turn sizeU sizeV lower upper facing (not_lt.mp apart)
    rw [unit, eps_real]
    norm_num

end Between

section Moved

variable {s a b a' b' : Quat ℝ} {t : ℝ}

/-- Where the orientations are not a half turn apart, or the canonical signs agree, both
representatives move together. -/
theorem nearer_moved {u v u' v' : Quat ℝ} (unit : s.norm = 1)
    (moveU : u'.UpToSign (quatMul s u)) (moveV : v'.UpToSign (quatMul s v))
    (agree : u.dot v = 0 → (u' = quatMul s u ↔ v' = quatMul s v)) :
    (u' = quatMul s u ∧ nearer u' v' = quatMul s (nearer u v)) ∨
      (u' = -quatMul s u ∧ nearer u' v' = -quatMul s (nearer u v)) := by
  obtain ⟨facing, same⟩ := nearer_spec u v
  obtain ⟨facing', same'⟩ := nearer_spec u' v'
  by_cases apart : u.dot v = 0
  · have stays : nearer u v = v := if_neg (by rw [apart]; exact lt_irrefl 0)
    have across : u'.dot v' = 0 := by
      rcases moveU with rfl | rfl <;> rcases moveV with rfl | rfl <;>
        simp only [Quat.neg_dot, Quat.dot_neg, quatMul_dot, apart, mul_zero, neg_zero]
    have stays' : nearer u' v' = v' := if_neg (by rw [across]; exact lt_irrefl 0)
    rw [stays, stays']
    by_cases kept : u' = quatMul s u
    · exact Or.inl ⟨kept, (agree apart).mp kept⟩
    · have turned : v' ≠ quatMul s v := fun same => kept ((agree apart).mpr same)
      exact Or.inr ⟨moveU.resolve_left kept, moveV.resolve_left turned⟩
  · have positive : 0 < u.dot (nearer u v) := by
      refine lt_of_le_of_ne facing (Ne.symm ?_)
      rcases same with forward | backward
      · rwa [forward]
      · rw [backward, Quat.dot_neg]
        exact neg_ne_zero.mpr apart
    have movedNear : (nearer u' v').UpToSign (quatMul s (nearer u v)) :=
      same'.trans (moveV.trans (quatMul_upToSign s same.symm))
    rcases moveU with first | first
    · rcases movedNear with second | second
      · exact Or.inl ⟨first, second⟩
      · rw [second, first, Quat.dot_neg, quatMul_dot_of_unit _ _ unit] at facing'
        linarith
    · rcases movedNear with second | second
      · rw [second, first, Quat.neg_dot, quatMul_dot_of_unit _ _ unit] at facing'
        linarith
      · exact Or.inr ⟨first, second⟩

theorem quatSlerp_moved (unit : s.norm = 1)
    (moveA : (quatNormalize a').UpToSign (quatMul s (quatNormalize a)))
    (moveB : (quatNormalize b').UpToSign (quatMul s (quatNormalize b)))
    (agree : (quatNormalize a).dot (quatNormalize b) = 0 →
      (quatNormalize a' = quatMul s (quatNormalize a) ↔
        quatNormalize b' = quatMul s (quatNormalize b)))
    (lower : 0 ≤ t) (upper : t ≤ 1) :
    (quatSlerp a' b' t).UpToSign (quatMul s (quatSlerp a b t)) := by
  have unitA := (quatNormalize_spec a).1
  have unitN := (nearer_norm (quatNormalize a) (quatNormalize b)).trans (quatNormalize_spec b).1
  have long := quatBetween_long unitA unitN (nearer_spec _ _).1 lower upper
  rw [quatSlerp_eq, quatSlerp_eq]
  rcases nearer_moved unit moveA moveB agree with ⟨first, second⟩ | ⟨first, second⟩
  · rw [second, first, quatBetween_mul unit]
    exact quatNormalize_mul unit long
  · rw [second, first, quatBetween_neg, quatBetween_mul unit]
    exact (quatNormalize_neg (long.trans_eq (quatMul_norm _ unit).symm)).trans
      (quatNormalize_mul unit long)

/-- Half way round, part of the way on one side is not part of the way on the other. -/
theorem quatBetween_half {u v : Quat ℝ} (apart : u.dot v = 0) (t : ℝ) :
    quatBetween u v t = Real.cos (Real.pi / 2 * t) * u + Real.sin (Real.pi / 2 * t) * v := by
  unfold quatBetween
  rw [apart, if_neg (by rw [Scalar.ofRat_real]; norm_num), Real.arccos_zero,
    Real.sin_pi_div_two, Real.sin_pi_div_two_sub, div_one, div_one]

theorem mix_norm {u v : Quat ℝ} (unitU : u.norm = 1) (unitV : v.norm = 1) (apart : u.dot v = 0)
    {x y : ℝ} (whole : x ^ 2 + y ^ 2 = 1) : (x * u + y * v).norm = 1 := by
  have square : (x * u + y * v).dot (x * u + y * v) =
      x ^ 2 * u.dot u + 2 * x * y * u.dot v + y ^ 2 * v.dot v := by
    simp only [Quat.dot, Quat.entries_add, Quat.entries_scale]
    ring
  rw [Quat.norm, square, apart, Quat.dot_self_of_unit unitU, Quat.dot_self_of_unit unitV, mul_one,
    mul_one, mul_zero, add_zero, whole, Scalar.sqrt_real, Real.sqrt_one]

/-- Two mixtures of a pair of directions that differ in the sign of one are two lines. -/
theorem mix_turned_back {u v : Quat ℝ} (unitU : u.norm = 1) (unitV : v.norm = 1)
    (apart : u.dot v = 0) {x y : ℝ} (first : 0 < x) (second : 0 < y) :
    ¬ (x * u + -y * v).UpToSign (x * u + y * v) := by
  have along (z : ℝ) : (x * u + z * v).dot u = x := by
    have expand : (x * u + z * v).dot u = x * u.dot u + z * u.dot v := by
      simp only [Quat.dot, Quat.entries_add, Quat.entries_scale]
      ring
    rw [expand, apart, Quat.dot_self_of_unit unitU, mul_one, mul_zero, add_zero]
  have across (z : ℝ) : (x * u + z * v).dot v = z := by
    have expand : (x * u + z * v).dot v = x * u.dot v + z * v.dot v := by
      simp only [Quat.dot, Quat.entries_add, Quat.entries_scale]
      ring
    rw [expand, apart, Quat.dot_self_of_unit unitV, mul_one, mul_zero, zero_add]
  rintro (same | opposite)
  · have equal := across (-y)
    rw [same, across] at equal
    linarith
  · have equal := along (-y)
    rw [opposite, Quat.neg_dot, along] at equal
    linarith

theorem quatMul_conj {s : Quat ℝ} (unit : s.norm = 1) (a : Quat ℝ) :
    quatMul (quatConj s) (quatMul s a) = a := by
  have square := Quat.dot_self_of_unit unit
  have scaled : quatMul (quatConj s) (quatMul s a) = s.dot s * a := by
    simp only [quatMul, quatConj, Quat.entries_scale, Quat.dot]
    ext <;> ring
  rw [scaled, square, Quat.entries_scale]
  simp only [one_mul]

theorem upToSign_of_moved {s a b : Quat ℝ} (unit : s.norm = 1)
    (moved : (quatMul s a).UpToSign (quatMul s b)) : a.UpToSign b := by
  have back := quatMul_upToSign (quatConj s) moved
  rwa [quatMul_conj unit, quatMul_conj unit] at back

theorem quatSlerp_turned_back (unit : s.norm = 1)
    (moveA : (quatNormalize a').UpToSign (quatMul s (quatNormalize a)))
    (moveB : (quatNormalize b').UpToSign (quatMul s (quatNormalize b)))
    (apart : (quatNormalize a).dot (quatNormalize b) = 0)
    (differ : ¬ (quatNormalize a' = quatMul s (quatNormalize a) ↔
      quatNormalize b' = quatMul s (quatNormalize b))) (lower : 0 < t) (upper : t < 1) :
    ¬ (quatSlerp a' b' t).UpToSign (quatMul s (quatSlerp a b t)) := by
  have unitA := (quatNormalize_spec a).1
  have unitB := (quatNormalize_spec b).1
  have cosine : 0 < Real.cos (Real.pi / 2 * t) := by
    apply Real.cos_pos_of_mem_Ioo
    constructor
    · nlinarith [Real.pi_pos]
    · nlinarith [Real.pi_pos]
  have sine : 0 < Real.sin (Real.pi / 2 * t) := by
    apply Real.sin_pos_of_pos_of_lt_pi
    · nlinarith [Real.pi_pos]
    · nlinarith [Real.pi_pos]
  have whole := Real.cos_sq_add_sin_sq (Real.pi / 2 * t)
  have stays : nearer (quatNormalize a) (quatNormalize b) = quatNormalize b :=
    if_neg (by rw [apart]; exact lt_irrefl 0)
  have across : (quatNormalize a').dot (quatNormalize b') = 0 := by
    rcases moveA with first | first <;> rcases moveB with second | second <;>
      simp only [first, second, Quat.neg_dot, Quat.dot_neg, quatMul_dot, apart, mul_zero, neg_zero]
  have stays' : nearer (quatNormalize a') (quatNormalize b') = quatNormalize b' :=
    if_neg (by rw [across]; exact lt_irrefl 0)
  rw [quatSlerp_eq, quatSlerp_eq, stays, stays', quatBetween_half apart, quatBetween_half across]
  generalize quatNormalize a = u at *
  generalize quatNormalize b = v at *
  generalize quatNormalize a' = u' at *
  generalize quatNormalize b' = v' at *
  generalize Real.cos (Real.pi / 2 * t) = x at *
  generalize Real.sin (Real.pi / 2 * t) = y at *
  have reached := quatNormalize_of_norm_one (mix_norm unitA unitB apart whole)
  have whole' : x ^ 2 + (-y) ^ 2 = 1 := by rwa [neg_sq]
  have unit' := mix_norm unitA unitB apart whole'
  have turned : (x * u' + y * v').UpToSign (quatMul s (x * u + -y * v)) := by
    rw [quatMul_add, quatMul_scale, quatMul_scale]
    rcases moveA with first | first
    · have second : v' = -quatMul s v :=
        moveB.resolve_left fun same => differ (iff_of_true first same)
      left
      rw [first, second]
      simp only [Quat.entries_add, Quat.entries_neg, Quat.entries_scale]
      ext <;> ring
    · have second : v' = quatMul s v := by
        by_contra other
        refine differ (iff_of_false ?_ other)
        intro same
        exact Quat.ne_neg_of_unit ((quatMul_norm u unit).trans unitA) (same.symm.trans first)
      right
      rw [first, second]
      simp only [Quat.entries_add, Quat.entries_neg, Quat.entries_scale]
      ext <;> ring
  have turnedUnit : (x * u' + y * v').norm = 1 := by
    have size := (quatMul_norm (x * u + -y * v) unit).trans unit'
    rcases turned with same | same
    · rwa [same]
    · rwa [same, Quat.norm_neg]
  intro same
  apply mix_turned_back unitA unitB apart cosine sine
  apply upToSign_of_moved unit
  exact turned.symm.trans ((quatNormalize_of_norm_one turnedUnit).symm.trans
    (same.trans (quatMul_upToSign s reached)))

end Moved

theorem upToSign_of_multiple {u v : Quat ℝ} (unitU : u.norm = 1) (unitV : v.norm = 1) {k : ℝ}
    (multiple : v = k * u) : v.UpToSign u := by
  have square : k * k = 1 := by
    have scaled : (k * u).dot (k * u) = k * k * u.dot u := by
      simp only [Quat.dot, Quat.entries_scale]
      ring
    rw [← multiple, Quat.dot_self_of_unit unitV, Quat.dot_self_of_unit unitU, mul_one] at scaled
    exact scaled.symm
  rcases mul_self_eq_one_iff.mp square with rfl | rfl
  · left
    rw [multiple, Quat.entries_scale]
    simp only [one_mul]
  · right
    rw [multiple, Quat.entries_scale, Quat.entries_neg]
    simp only [neg_mul, one_mul]

theorem quatBetween_mix {u v : Quat ℝ} (facing : 0 ≤ u.dot v) {t : ℝ} (lower : 0 < t)
    (upper : t ≤ 1) : ∃ x y : ℝ, y ≠ 0 ∧ quatBetween u v t = x * u + y * v := by
  unfold quatBetween
  split
  · refine ⟨1 - t, t, lower.ne', ?_⟩
    simp only [Quat.entries_add, Quat.entries_sub, Quat.entries_scale]
    ext <;> ring
  · rename_i apart
    refine ⟨_, _, ?_, rfl⟩
    have below : u.dot v < 1 := by
      rw [Scalar.ofRat_real] at apart
      push_cast at apart
      linarith
    have positive : 0 < Real.arccos (u.dot v) := Real.arccos_pos.mpr below
    have quarter : Real.arccos (u.dot v) ≤ Real.pi / 2 := Real.arccos_le_pi_div_two.mpr facing
    have part : Real.arccos (u.dot v) * t ≤ Real.arccos (u.dot v) :=
      mul_le_of_le_one_right positive.le upper
    apply div_ne_zero
    · exact (Real.sin_pos_of_pos_of_lt_pi (mul_pos positive lower)
        (by linarith [Real.pi_pos])).ne'
    · exact (Real.sin_pos_of_pos_of_lt_pi positive (by linarith [Real.pi_pos])).ne'

theorem multiple_of_line {q u : Quat ℝ} (positive : 0 < q.norm)
    (line : (q / q.norm).UpToSign u) : ∃ c : ℝ, q = c * u := by
  rcases line with rfl | same
  · refine ⟨q.norm, ?_⟩
    simp only [Quat.entries_scale, Quat.entries_div, mul_div_cancel₀ _ positive.ne']
  · refine ⟨-q.norm, ?_⟩
    have negated : u = -(q / q.norm) := by rw [same, Quat.neg_twice]
    rw [negated]
    simp only [Quat.entries_scale, Quat.entries_div, Quat.entries_neg, neg_mul_neg,
      mul_div_cancel₀ _ positive.ne']

theorem quatSlerp_leaves {a b : Quat ℝ} {t : ℝ}
    (apart : ¬ (quatNormalize b).UpToSign (quatNormalize a)) (lower : 0 < t) (upper : t ≤ 1) :
    ¬ (quatSlerp a b t).UpToSign (quatNormalize a) := by
  have unitA := (quatNormalize_spec a).1
  have unitN := (nearer_norm (quatNormalize a) (quatNormalize b)).trans (quatNormalize_spec b).1
  obtain ⟨facing, near⟩ := nearer_spec (quatNormalize a) (quatNormalize b)
  have long := quatBetween_long unitA unitN facing lower.le upper
  obtain ⟨x, y, weight, mixed⟩ := quatBetween_mix facing lower upper
  rw [quatSlerp_eq]
  generalize quatNormalize a = u at *
  generalize nearer u (quatNormalize b) = n at *
  intro stayed
  have line := (quatNormalize_of_long long).symm.trans stayed
  rw [mixed] at line long
  obtain ⟨c, scaled⟩ := multiple_of_line (eps_pos.trans_le long) line
  have multiple : n = ((c - x) / y) * u := by
    have entry {p q : ℝ} (sum : x * p + y * q = c * p) : q = (c - x) / y * p := by
      field_simp
      linarith
    simp only [Quat.entries_add, Quat.entries_scale, Quat.mk.injEq] at scaled
    obtain ⟨atW, atX, atY, atZ⟩ := scaled
    rw [Quat.entries_scale]
    ext
    · exact entry atW
    · exact entry atX
    · exact entry atY
    · exact entry atZ
  exact apart (near.symm.trans (upToSign_of_multiple unitA unitN multiple))

theorem quatSlerp_one (a b : Quat ℝ) : (quatSlerp a b 1).UpToSign (quatNormalize b) := by
  have unitA := (quatNormalize_spec a).1
  obtain ⟨facing, near⟩ := nearer_spec (quatNormalize a) (quatNormalize b)
  have unitN := (nearer_norm (quatNormalize a) (quatNormalize b)).trans (quatNormalize_spec b).1
  have whole : quatBetween (quatNormalize a) (nearer (quatNormalize a) (quatNormalize b)) 1 =
      nearer (quatNormalize a) (quatNormalize b) := by
    generalize nearer (quatNormalize a) (quatNormalize b) = n at *
    generalize quatNormalize a = u at *
    unfold quatBetween
    split
    · simp only [Quat.entries_add, Quat.entries_sub, Quat.entries_scale, one_mul,
        add_sub_cancel]
    · rename_i apart
      have below : u.dot n < 1 := by
        rw [Scalar.ofRat_real] at apart
        push_cast at apart
        linarith
      have sine : Real.sin (Real.arccos (u.dot n)) ≠ 0 :=
        (Real.sin_pos_of_pos_of_lt_pi (Real.arccos_pos.mpr below)
          (by linarith [Real.arccos_le_pi_div_two.mpr facing, Real.pi_pos])).ne'
      rw [mul_one, sub_self, Real.sin_zero, zero_div, div_self sine]
      simp only [Quat.entries_add, Quat.entries_scale, zero_mul, zero_add, one_mul]
  rw [quatSlerp_eq, whole]
  exact (quatNormalize_of_norm_one unitN).trans near

theorem quatAngle_moved {s a b a' b' : Quat ℝ} (unit : s.norm = 1)
    (moveA : (quatNormalize a').UpToSign (quatMul s (quatNormalize a)))
    (moveB : (quatNormalize b').UpToSign (quatMul s (quatNormalize b))) :
    quatAngle a' b' = quatAngle a b := by
  have same : |(quatNormalize a').dot (quatNormalize b')| =
      |(quatNormalize a).dot (quatNormalize b)| := by
    rcases moveA with first | first <;> rcases moveB with second | second <;>
      simp only [first, second, Quat.neg_dot, Quat.dot_neg, quatMul_dot_of_unit _ _ unit, abs_neg,
        neg_neg]
  unfold quatAngle
  dsimp only
  rw [Scalar.abs_real, same, ← Scalar.abs_real]

theorem quatRotate_partway (q : Quat ℝ) (a b : Vec3 ℝ) (t : ℝ) :
    quatRotate q (a + (b - a) * t) =
      quatRotate q a + (quatRotate q b - quatRotate q a) * t := by
  simp only [quatRotate, quatMul, quatConj, Vec3.add_x, Vec3.add_y, Vec3.add_z, Vec3.sub_x,
    Vec3.sub_y, Vec3.sub_z, Vec3.mul_x, Vec3.mul_y, Vec3.mul_z]
  ext
  · simp only [Vec3.add_x, Vec3.sub_x, Vec3.mul_x]
    ring
  · simp only [Vec3.add_y, Vec3.sub_y, Vec3.mul_y]
    ring
  · simp only [Vec3.add_z, Vec3.sub_z, Vec3.mul_z]
    ring

theorem quatRotate_norm (q : Quat ℝ) (a b : Vec3 ℝ) :
    (quatRotate q b - quatRotate q a).norm = (b - a).norm := by
  have unit := Quat.dot_self_of_unit (quatNormalize_spec q).1
  have square : (quatRotate q b - quatRotate q a).x * (quatRotate q b - quatRotate q a).x +
      (quatRotate q b - quatRotate q a).y * (quatRotate q b - quatRotate q a).y +
      (quatRotate q b - quatRotate q a).z * (quatRotate q b - quatRotate q a).z =
      (quatNormalize q).dot (quatNormalize q) * (quatNormalize q).dot (quatNormalize q) *
        ((b - a).x * (b - a).x + (b - a).y * (b - a).y + (b - a).z * (b - a).z) := by
    simp only [quatRotate, quatMul, quatConj, Quat.dot, Vec3.sub_x, Vec3.sub_y, Vec3.sub_z]
    ring
  rw [Vec3.norm, Vec3.norm, square, unit, one_mul, one_mul]

/-- A position composed onto the start pose. -/
noncomputable def Pose.place (start : Pose ℝ) (v : Vec3 ℝ) : Vec3 ℝ :=
  start.pos + quatRotate start.quat v

theorem place_partway (start : Pose ℝ) (a b : Vec3 ℝ) (t : ℝ) :
    start.place a + (start.place b - start.place a) * t = start.place (a + (b - a) * t) := by
  unfold Pose.place
  rw [quatRotate_partway]
  ext
  · simp only [Vec3.add_x, Vec3.sub_x, Vec3.mul_x]
    ring
  · simp only [Vec3.add_y, Vec3.sub_y, Vec3.mul_y]
    ring
  · simp only [Vec3.add_z, Vec3.sub_z, Vec3.mul_z]
    ring

theorem place_norm (start : Pose ℝ) (a b : Vec3 ℝ) :
    (start.place b - start.place a).norm = (b - a).norm := by
  have shifted : start.place b - start.place a =
      quatRotate start.quat b - quatRotate start.quat a := by
    unfold Pose.place
    ext
    · simp only [Vec3.add_x, Vec3.sub_x]
      ring
    · simp only [Vec3.add_y, Vec3.sub_y]
      ring
    · simp only [Vec3.add_z, Vec3.sub_z]
      ring
  rw [shifted, quatRotate_norm]

/-! ### Resolved waypoints -/

noncomputable def resolvedQuat (s : Quat ℝ) : Option (Quat ℝ) → Quat ℝ
  | none => s
  | some q => quatNormalize (quatMul s q)

noncomputable def CartesianWaypoint.resolved (start : Pose ℝ) (wp : CartesianWaypoint ℝ) :
    CartesianWaypoint ℝ :=
  { wp with
    position := start.place wp.position
    quaternion := some (resolvedQuat start.quat wp.quaternion) }

theorem resolvedQuat_norm {s : Quat ℝ} (unit : s.norm = 1) (quaternion : Option (Quat ℝ)) :
    (resolvedQuat s quaternion).norm = 1 := by
  cases quaternion with
  | none => exact unit
  | some q => exact (quatNormalize_spec _).1

theorem toAbsolute_resolved {start : Pose ℝ} (unit : start.quat.norm = 1)
    (wp : CartesianWaypoint ℝ) : wp.toAbsolute start = .ok (wp.resolved start) := by
  have size := resolvedQuat_norm unit wp.quaternion
  have same : wp.toAbsolute start = CartesianWaypoint.create (start.place wp.position)
      (some (resolvedQuat start.quat wp.quaternion)) wp.gripper wp.nFrames wp.duration
        wp.frame := by
    unfold CartesianWaypoint.toAbsolute
    cases wp.quaternion <;> rfl
  have kept : resolvedQuat start.quat wp.quaternion / (1 : ℝ) =
      resolvedQuat start.quat wp.quaternion := by
    simp only [Quat.entries_div, div_one]
  rw [same]
  unfold CartesianWaypoint.create
  dsimp only [bind, Except.bind, pure, Except.pure]
  rw [size, if_neg (by rw [eps_real]; norm_num)]
  have frames : ∀ n ∈ wp.nFrames, 0 < n := wp.framesPositive
  rw [dif_pos wp.timed, dif_pos frames, kept]
  rfl

theorem resolveToAbsolute_relative {start : Pose ℝ} (unit : start.quat.norm = 1)
    (chunk : CartesianChunk ℝ) :
    ∃ made, ({ chunk with representation := .relativeToStart } :
        CartesianChunk ℝ).resolveToAbsolute start = .ok made ∧
      made.waypoints = chunk.waypoints.map (·.resolved start) := by
  have mapped : chunk.waypoints.mapM (CartesianWaypoint.toAbsolute start) =
      .ok (chunk.waypoints.map (·.resolved start)) := by
    induction chunk.waypoints with
    | nil => rfl
    | cons wp rest ih =>
        rw [List.mapM_cons, toAbsolute_resolved unit, ih]
        rfl
  unfold CartesianChunk.resolveToAbsolute
  dsimp only
  split
  · rename_i e raised
    rw [mapped] at raised
    cases raised
  · rename_i waypoints answered
    rw [mapped, Except.ok.injEq] at answered
    exact ⟨_, rfl, answered.symm⟩

/-- A setpoint and the one composed onto the start pose, of one segment and tick count. -/
structure MovesWith (start : Pose ℝ) (sp sp' : CartesianSetpoint ℝ) : Prop where
  pos : sp'.pose.pos = start.place sp.pose.pos
  quat : sp'.pose.quat.UpToSign (quatMul start.quat sp.pose.quat)
  segment : sp'.segment = sp.segment
  ticks : sp'.segmentTicks = sp.segmentTicks

namespace CartesianChunkInterpolator

section Segment

variable {start : Pose ℝ} {prevPos tgtPos : Vec3 ℝ} {a b a' b' : Quat ℝ}
  {gripper gripper' : Option (GripperCommand ℝ)} {segIdx n : ℕ}

theorem segment_moved (unit : start.quat.norm = 1)
    (moveA : (quatNormalize a').UpToSign (quatMul start.quat (quatNormalize a)))
    (moveB : (quatNormalize b').UpToSign (quatMul start.quat (quatNormalize b)))
    (agree : 1 < n → (quatNormalize a).dot (quatNormalize b) = 0 →
      (quatNormalize a' = quatMul start.quat (quatNormalize a) ↔
        quatNormalize b' = quatMul start.quat (quatNormalize b))) :
    List.Forall₂ (MovesWith start) (segment prevPos tgtPos a b gripper segIdx n)
      (segment (start.place prevPos) (start.place tgtPos) a' b' gripper' segIdx n) := by
  unfold segment
  rw [List.forall₂_map_left_iff, List.forall₂_map_right_iff, List.forall₂_same]
  intro k inside
  have before := List.mem_range.mp inside
  refine ⟨(place_partway start prevPos tgtPos _), ?_, rfl, rfl⟩
  dsimp only
  rw [cosineBlend_tick before]
  by_cases several : 1 < n
  · exact quatSlerp_moved unit moveA moveB (agree several) (ease_nonneg _) (ease_le_one _)
  · have only : k = 0 := by omega
    have single : n = 1 := by omega
    subst only single
    have last : ((0 + 1 : ℕ) : ℝ) / (1 : ℕ) = 1 := by norm_num
    rw [last, ease_one]
    exact (quatSlerp_one a' b').trans
      (moveB.trans (quatMul_upToSign start.quat (quatSlerp_one a b).symm))

theorem segment_head (several : 0 < n) : ∃ rest, segment prevPos tgtPos a b gripper segIdx n =
    { pose := ⟨prevPos + (tgtPos - prevPos) * ease (1 / n), quatSlerp a b (ease (1 / n))⟩
      gripper := gripper, segment := segIdx, segmentTicks := n } :: rest := by
  obtain ⟨m, rfl⟩ : ∃ m, n = m + 1 := ⟨n - 1, by omega⟩
  have first : cosineBlend (Scalar.ofNat (0 + 1) / Scalar.ofNat (m + 1) : ℝ) =
      ease (1 / (m + 1 : ℕ)) := by
    rw [cosineBlend_tick several, zero_add, Nat.cast_one]
  unfold segment
  rw [List.range_succ_eq_map, List.map_cons]
  dsimp only
  rw [first]
  exact ⟨_, rfl⟩

end Segment

theorem heads_moved {start : Pose ℝ} {x y : CartesianSetpoint ℝ}
    {xs ys xs' ys' : List (CartesianSetpoint ℝ)}
    (moved : List.Forall₂ (MovesWith start) (x :: xs ++ xs') (y :: ys ++ ys')) :
    MovesWith start x y := by
  cases moved with
  | cons head _ => exact head

theorem tails_moved {start : Pose ℝ} {xs ys xs' ys' : List (CartesianSetpoint ℝ)}
    (first : List.Forall₂ (MovesWith start) xs ys) :
    List.Forall₂ (MovesWith start) (xs ++ xs') (ys ++ ys') ↔
      List.Forall₂ (MovesWith start) xs' ys' := by
  induction first with
  | nil => exact Iff.rfl
  | cons head _ ih => rw [List.cons_append, List.cons_append, List.forall₂_cons, ih,
      and_iff_right head]

def KeepsSign (s a a' : Quat ℝ) : Prop := quatNormalize a' = quatMul s (quatNormalize a)

/-- What the waypoints must be like: a held one follows no turn away from the identity, and
the two ends of a half turn of several ticks keep or lose their signs together. -/
def RigidFrom (interp : CartesianChunkInterpolator ℝ) (s : Quat ℝ) :
    Vec3 ℝ → Quat ℝ → Quat ℝ → List (CartesianWaypoint ℝ) → Prop
  | _, _, _, [] => True
  | prevPos, a, a', wp :: rest =>
      (wp.quaternion = none → quatNormalize a = 1) ∧
      (1 < interp.segmentTicks prevPos wp.position a (wp.quaternion.getD a) wp →
        (quatNormalize a).dot (quatNormalize (wp.quaternion.getD a)) = 0 →
        (KeepsSign s a a' ↔
          KeepsSign s (wp.quaternion.getD a) (resolvedQuat s wp.quaternion))) ∧
      RigidFrom interp s wp.position (wp.quaternion.getD a) (resolvedQuat s wp.quaternion) rest

structure TimesLike (interp interp' : CartesianChunkInterpolator ℝ) : Prop where
  rate : interp'.hz = interp.hz
  linear : interp'.maxLinearSpeed = interp.maxLinearSpeed
  angular : interp'.maxAngularSpeed = interp.maxAngularSpeed

theorem TimesLike.ticks {interp interp' : CartesianChunkInterpolator ℝ}
    (alike : interp.TimesLike interp') {start : Pose ℝ} (unit : start.quat.norm = 1)
    (prevPos tgtPos : Vec3 ℝ) {a b a' b' : Quat ℝ}
    (moveA : (quatNormalize a').UpToSign (quatMul start.quat (quatNormalize a)))
    (moveB : (quatNormalize b').UpToSign (quatMul start.quat (quatNormalize b)))
    (wp : CartesianWaypoint ℝ) :
    interp'.segmentTicks (start.place prevPos) (start.place tgtPos) a' b' (wp.resolved start) =
      interp.segmentTicks prevPos tgtPos a b wp := by
  unfold segmentTicks dt
  rw [alike.rate, alike.linear, alike.angular, place_norm, quatAngle_moved unit moveA moveB]
  rfl

theorem segmentTicks_some (interp : CartesianChunkInterpolator ℝ) (prevPos tgtPos : Vec3 ℝ)
    (a b : Quat ℝ) (wp : CartesianWaypoint ℝ) : 0 < interp.segmentTicks prevPos tgtPos a b wp := by
  unfold segmentTicks
  dsimp only
  omega

theorem quatNormalize_ne_neg_one (a : Quat ℝ) : quatNormalize a ≠ -1 := by
  intro same
  have sign := (quatNormalize_spec a).2
  rw [same] at sign
  change (0 : ℝ) ≤ -1 at sign
  linarith

theorem ease_first {n : ℕ} (several : 0 < n) : 0 < ease (1 / n) ∧ (1 < n → ease (1 / n) < 1) := by
  have ticks : (1 : ℝ) ≤ n := by exact_mod_cast several
  constructor
  · apply ease_pos
    · positivity
    · rw [div_le_one (by linarith)]
      exact ticks
  · intro more
    have ticks' : (1 : ℝ) < n := by exact_mod_cast more
    apply ease_lt_one
    · positivity
    · rw [div_lt_one (by linarith)]
      exact ticks'

section Step

variable {interp interp' : CartesianChunkInterpolator ℝ} {start : Pose ℝ} {prevPos : Vec3 ℝ}
  {a a' : Quat ℝ} {wp : CartesianWaypoint ℝ}

/-- A waypoint held after a turn: the resolved chunk sets off back to the start orientation. -/
theorem held_apart (unit : start.quat.norm = 1)
    (moveA : (quatNormalize a').UpToSign (quatMul start.quat (quatNormalize a)))
    (turned : quatNormalize a ≠ 1) {m n : ℕ} (one : 0 < m) (some_tick : 0 < n) {tgtPos : Vec3 ℝ}
    {gripper gripper' : Option (GripperCommand ℝ)} {segIdx : ℕ}
    {rest rest' : List (CartesianSetpoint ℝ)} :
    ¬ List.Forall₂ (MovesWith start) (segment prevPos tgtPos a a gripper segIdx m ++ rest)
      (segment (start.place prevPos) (start.place tgtPos) a' start.quat gripper' segIdx n ++
        rest') := by
  obtain ⟨xs, first⟩ := @segment_head prevPos tgtPos a a gripper segIdx m one
  obtain ⟨ys, second⟩ := @segment_head (start.place prevPos) (start.place tgtPos) a' start.quat
    gripper' segIdx n some_tick
  rw [first, second]
  intro moved
  have head := (heads_moved moved).quat
  dsimp only at head
  rw [quatSlerp_of_aligned rfl] at head
  have reached := head.trans moveA.symm
  have tick : ease (1 / n) ≤ 1 := ease_le_one _
  refine quatSlerp_leaves ?_ (ease_first some_tick).1 tick reached
  intro same
  have home := (quatNormalize_of_norm_one unit).symm.trans (same.trans moveA)
  have identity : (1 : Quat ℝ).UpToSign (quatNormalize a) := by
    apply upToSign_of_moved unit
    rwa [quatMul_one]
  rcases identity.symm with same | opposite
  · exact turned same
  · exact quatNormalize_ne_neg_one a opposite

theorem half_turn_apart (unit : start.quat.norm = 1) {b b' : Quat ℝ}
    (moveA : (quatNormalize a').UpToSign (quatMul start.quat (quatNormalize a)))
    (moveB : (quatNormalize b').UpToSign (quatMul start.quat (quatNormalize b)))
    (apart : (quatNormalize a).dot (quatNormalize b) = 0)
    (differ : ¬ (KeepsSign start.quat a a' ↔ KeepsSign start.quat b b')) {n : ℕ}
    (several : 1 < n) {tgtPos : Vec3 ℝ} {gripper gripper' : Option (GripperCommand ℝ)}
    {segIdx : ℕ} {rest rest' : List (CartesianSetpoint ℝ)} :
    ¬ List.Forall₂ (MovesWith start) (segment prevPos tgtPos a b gripper segIdx n ++ rest)
      (segment (start.place prevPos) (start.place tgtPos) a' b' gripper' segIdx n ++ rest') := by
  have some_tick : 0 < n := by omega
  obtain ⟨xs, first⟩ := @segment_head prevPos tgtPos a b gripper segIdx n some_tick
  obtain ⟨ys, second⟩ := @segment_head (start.place prevPos) (start.place tgtPos) a' b'
    gripper' segIdx n some_tick
  rw [first, second]
  intro moved
  obtain ⟨lower, upper⟩ := ease_first some_tick
  exact quatSlerp_turned_back unit moveA moveB apart differ lower (upper several)
    (heads_moved moved).quat

theorem resolvedQuat_moved (unit : start.quat.norm = 1)
    (units : ∀ q ∈ wp.quaternion, q.norm = 1) (held : wp.quaternion = none → quatNormalize a = 1) :
    (quatNormalize (resolvedQuat start.quat wp.quaternion)).UpToSign
      (quatMul start.quat (quatNormalize (wp.quaternion.getD a))) := by
  cases given : wp.quaternion with
  | none =>
      rw [Option.getD_none, held given, quatMul_one]
      exact quatNormalize_of_norm_one unit
  | some q =>
      have long : eps ≤ q.norm := by
        rw [units q given, eps_real]
        norm_num
      rw [Option.getD_some, resolvedQuat, quatNormalize_idem]
      exact quatNormalize_mul unit long

end Step

theorem setpointsFrom_rigid_iff {interp interp' : CartesianChunkInterpolator ℝ}
    (alike : interp.TimesLike interp') {start : Pose ℝ} (unit : start.quat.norm = 1)
    (waypoints : List (CartesianWaypoint ℝ)) :
    ∀ {prevPos : Vec3 ℝ} {a a' : Quat ℝ} (segIdx : ℕ),
      (∀ wp ∈ waypoints, ∀ q ∈ wp.quaternion, q.norm = 1) →
      (quatNormalize a').UpToSign (quatMul start.quat (quatNormalize a)) →
      (List.Forall₂ (MovesWith start) (interp.setpointsFrom prevPos a segIdx waypoints)
          (interp'.setpointsFrom (start.place prevPos) a' segIdx
            (waypoints.map (·.resolved start))) ↔
        RigidFrom interp start.quat prevPos a a' waypoints) := by
  induction waypoints with
  | nil => exact fun _ _ _ => iff_of_true .nil trivial
  | cons wp rest ih =>
      intro prevPos a a' segIdx units moveA
      rw [List.forall_mem_cons] at units
      have one := interp.segmentTicks_some prevPos wp.position a (wp.quaternion.getD a) wp
      have one' := interp'.segmentTicks_some (start.place prevPos) (start.place wp.position) a'
        (resolvedQuat start.quat wp.quaternion) (wp.resolved start)
      change List.Forall₂ (MovesWith start)
        (segment prevPos wp.position a (wp.quaternion.getD a) wp.gripper segIdx
          (interp.segmentTicks prevPos wp.position a (wp.quaternion.getD a) wp) ++
          interp.setpointsFrom wp.position (wp.quaternion.getD a) (segIdx + 1) rest)
        (segment (start.place prevPos) (start.place wp.position) a'
          (resolvedQuat start.quat wp.quaternion) wp.gripper segIdx
          (interp'.segmentTicks (start.place prevPos) (start.place wp.position) a'
            (resolvedQuat start.quat wp.quaternion) (wp.resolved start)) ++
          interp'.setpointsFrom (start.place wp.position) (resolvedQuat start.quat wp.quaternion)
            (segIdx + 1) (rest.map (·.resolved start))) ↔ _ ∧ _ ∧ _
      by_cases held : wp.quaternion = none → quatNormalize a = 1
      · have moveB := resolvedQuat_moved unit units.1 held
        rw [and_iff_right held]
        rw [alike.ticks unit prevPos wp.position moveA moveB wp]
        by_cases agree : 1 < interp.segmentTicks prevPos wp.position a (wp.quaternion.getD a) wp →
            (quatNormalize a).dot (quatNormalize (wp.quaternion.getD a)) = 0 →
            (KeepsSign start.quat a a' ↔ KeepsSign start.quat (wp.quaternion.getD a)
              (resolvedQuat start.quat wp.quaternion))
        · rw [and_iff_right agree, tails_moved (segment_moved unit moveA moveB agree)]
          exact ih (segIdx + 1) units.2 moveB
        · refine iff_of_false ?_ (fun rigid => agree rigid.1)
          push Not at agree
          obtain ⟨several, apart, differ⟩ := agree
          exact half_turn_apart unit moveA moveB apart (by tauto) several
      · refine iff_of_false ?_ (fun rigid => held rigid.1)
        push Not at held
        obtain ⟨none, turned⟩ := held
        rw [none, Option.getD_none, resolvedQuat]
        rw [none] at one one'
        exact held_apart unit moveA turned one one'

end CartesianChunkInterpolator

/-! ### Whole chunks -/

noncomputable def absoluteFromIdentity (chunk : CartesianChunk ℝ) (hz : ℝ)
    (maxLinearSpeed maxAngularSpeed : Option ℝ) : CartesianChunkInterpolator ℝ :=
  { chunk := { chunk with representation := .absolute }, startPose := Pose.identity, hz,
    maxLinearSpeed, maxAngularSpeed }

noncomputable def resolvedFromStart (resolved : CartesianChunk ℝ) (start : Pose ℝ) (hz : ℝ)
    (maxLinearSpeed maxAngularSpeed : Option ℝ) : CartesianChunkInterpolator ℝ :=
  { chunk := resolved, startPose := start, hz, maxLinearSpeed, maxAngularSpeed }

def CartesianChunk.Rigid (chunk : CartesianChunk ℝ) (start : Pose ℝ) (hz : ℝ)
    (maxLinearSpeed maxAngularSpeed : Option ℝ) : Prop :=
  (absoluteFromIdentity chunk hz maxLinearSpeed maxAngularSpeed).RigidFrom start.quat 0 1
    start.quat chunk.waypoints

theorem place_zero (start : Pose ℝ) : start.place 0 = start.pos := by
  have still : quatRotate start.quat 0 = 0 := by
    simp only [quatRotate, quatMul, quatConj, Vec3.zero_x, Vec3.zero_y, Vec3.zero_z]
    ext
    · simp only [Vec3.zero_x]
      ring
    · simp only [Vec3.zero_y]
      ring
    · simp only [Vec3.zero_z]
      ring
  rw [Pose.place, still]
  ext
  · exact add_zero _
  · exact add_zero _
  · exact add_zero _

theorem setpoints_rigid_iff {chunk resolved : CartesianChunk ℝ} (made : chunk.Constructed)
    {start : Pose ℝ} (unit : start.quat.norm = 1)
    (waypoints : resolved.waypoints = chunk.waypoints.map (·.resolved start)) (hz : ℝ)
    (maxLinearSpeed maxAngularSpeed : Option ℝ) :
    List.Forall₂ (MovesWith start)
        (absoluteFromIdentity chunk hz maxLinearSpeed maxAngularSpeed).setpoints
        (resolvedFromStart resolved start hz maxLinearSpeed maxAngularSpeed).setpoints ↔
      chunk.Rigid start hz maxLinearSpeed maxAngularSpeed := by
  have identity : quatNormalize (1 : Quat ℝ) = 1 :=
    quatNormalize_of_unit Quat.norm_one zero_le_one
  have moved : (quatNormalize start.quat).UpToSign (quatMul start.quat (quatNormalize 1)) := by
    rw [identity, quatMul_one]
    exact quatNormalize_of_norm_one unit
  have alike : (absoluteFromIdentity chunk hz maxLinearSpeed maxAngularSpeed).TimesLike
      (resolvedFromStart resolved start hz maxLinearSpeed maxAngularSpeed) := ⟨rfl, rfl, rfl⟩
  have rigid := @CartesianChunkInterpolator.setpointsFrom_rigid_iff _ _ alike start unit
    chunk.waypoints 0 1 start.quat 0 (fun wp member => (made wp member).unit) moved
  rw [place_zero, ← waypoints] at rigid
  exact rigid

/-- A relative chunk resolved at a pose streams the absolute one composed onto it, up to the
sign of quaternions, exactly where every held waypoint follows no turn and no half turn is
gone round the other way. -/
theorem relative_stream_rigid_iff {chunk : CartesianChunk ℝ} (made : chunk.Constructed)
    {start : Pose ℝ} (unit : start.quat.norm = 1) (hz : ℝ)
    (maxLinearSpeed maxAngularSpeed : Option ℝ) :
    ∃ resolved, ({ chunk with representation := .relativeToStart } :
        CartesianChunk ℝ).resolveToAbsolute start = .ok resolved ∧
      (List.Forall₂ (MovesWith start)
          (absoluteFromIdentity chunk hz maxLinearSpeed maxAngularSpeed).setpoints
          (resolvedFromStart resolved start hz maxLinearSpeed maxAngularSpeed).setpoints ↔
        chunk.Rigid start hz maxLinearSpeed maxAngularSpeed) := by
  obtain ⟨resolved, answered, waypoints⟩ := resolveToAbsolute_relative unit chunk
  exact ⟨resolved, answered, setpoints_rigid_iff made unit waypoints hz _ _⟩

noncomputable def stayingWaypoint (quaternion : Option (Quat ℝ)) : CartesianWaypoint ℝ where
  position := 0
  quaternion := quaternion
  gripper := none
  nFrames := some 10
  duration := none
  frame := "base"
  timed := turned_timed
  framesPositive := turned_positive

noncomputable def partTurn : Quat ℝ := ⟨3 / 5, 0, 0, 4 / 5⟩

theorem stayingWaypoint_constructed {quaternion : Option (Quat ℝ)}
    (unit : ∀ q ∈ quaternion, q.norm = 1) : (stayingWaypoint quaternion).Constructed :=
  ⟨0, quaternion, none, some 10, none, "base", @CartesianWaypoint.create_again
    (stayingWaypoint quaternion) unit⟩

theorem partTurn_norm : partTurn.norm = 1 := by
  rw [Quat.norm, Quat.dot]
  norm_num [partTurn]

theorem partTurn_normal : quatNormalize partTurn = partTurn :=
  quatNormalize_of_unit partTurn_norm (by norm_num [partTurn])

theorem two_staying (first second : Option (Quat ℝ)) :
    [stayingWaypoint first, stayingWaypoint second] ≠ [] := List.cons_ne_nil _ _

noncomputable def stayingChunk (first second : Option (Quat ℝ)) : CartesianChunk ℝ where
  waypoints := [stayingWaypoint first, stayingWaypoint second]
  nonempty := two_staying first second
  allowanceNonneg := no_allowance
  gatePositive := no_gate

theorem stayingChunk_constructed {first second : Option (Quat ℝ)}
    (unit : ∀ q ∈ first, q.norm = 1) (unit' : ∀ q ∈ second, q.norm = 1) :
    (stayingChunk first second).Constructed := by
  intro wp member
  rcases List.mem_cons.mp member with same | rest
  · rw [same]
    exact stayingWaypoint_constructed unit
  · rw [List.mem_singleton.mp rest]
    exact stayingWaypoint_constructed unit'

theorem some_partTurn : ∀ q ∈ some partTurn, q.norm = 1 := by
  intro q given
  cases given
  exact partTurn_norm

theorem none_unit : ∀ q ∈ (none : Option (Quat ℝ)), q.norm = 1 := by
  intro q given
  cases given

noncomputable def flippedStart : Pose ℝ := ⟨0, ⟨0, 1, 0, 0⟩⟩

theorem flippedStart_norm : flippedStart.quat.norm = 1 := by
  rw [Quat.norm, Quat.dot]
  norm_num [flippedStart]

theorem relative_stream_rigid_iff_turnLast :
    ((stayingChunk none (some partTurn)).Constructed ∧ flippedStart.quat.norm = 1) ∧
    ∃ resolved, ({ stayingChunk none (some partTurn) with representation := .relativeToStart } :
        CartesianChunk ℝ).resolveToAbsolute flippedStart = .ok resolved ∧
      List.Forall₂ (MovesWith flippedStart)
        (absoluteFromIdentity (stayingChunk none (some partTurn)) 100 none none).setpoints
        (resolvedFromStart resolved flippedStart 100 none none).setpoints := by
  have made := stayingChunk_constructed none_unit some_partTurn
  refine ⟨⟨made, flippedStart_norm⟩, ?_⟩
  obtain ⟨resolved, answered, rigid⟩ :=
    relative_stream_rigid_iff made flippedStart_norm 100 none none
  refine ⟨resolved, answered, rigid.mpr ?_⟩
  have identity : quatNormalize (1 : Quat ℝ) = 1 :=
    quatNormalize_of_unit Quat.norm_one zero_le_one
  refine ⟨fun _ => identity, ?_, ?_, ?_, trivial⟩
  · intro _ apart
    change (quatNormalize (1 : Quat ℝ)).dot (quatNormalize 1) = 0 at apart
    rw [quatNormalize_dot_self] at apart
    exact absurd apart one_ne_zero
  · intro impossible
    cases impossible
  · intro _ apart
    change (quatNormalize (1 : Quat ℝ)).dot (quatNormalize partTurn) = 0 at apart
    rw [identity, partTurn_normal, Quat.dot, Quat.entries_one] at apart
    norm_num [partTurn] at apart

theorem held_waypoint_turns_back :
    ((stayingChunk (some partTurn) none).Constructed ∧ Pose.identity.quat.norm = (1 : ℝ)) ∧
    ¬ ∃ resolved, ({ stayingChunk (some partTurn) none with representation := .relativeToStart } :
        CartesianChunk ℝ).resolveToAbsolute Pose.identity = .ok resolved ∧
      List.Forall₂ (MovesWith Pose.identity)
        (absoluteFromIdentity (stayingChunk (some partTurn) none) 100 none none).setpoints
        (resolvedFromStart resolved Pose.identity 100 none none).setpoints := by
  have made := stayingChunk_constructed some_partTurn none_unit
  have unit : (Pose.identity : Pose ℝ).quat.norm = 1 := Quat.norm_one
  refine ⟨⟨made, unit⟩, ?_⟩
  rintro ⟨resolved, answered, moved⟩
  obtain ⟨resolved', answered', waypoints⟩ :=
    resolveToAbsolute_relative unit (stayingChunk (some partTurn) none)
  rw [answered, Except.ok.injEq] at answered'
  subst answered'
  obtain ⟨_, _, held, _⟩ := (setpoints_rigid_iff made unit waypoints 100 none none).mp moved
  have turned := held rfl
  change quatNormalize partTurn = 1 at turned
  rw [partTurn_normal] at turned
  have scalar := congrArg Quat.w turned
  change (3 / 5 : ℝ) = 1 at scalar
  norm_num at scalar

end FlexivControl
