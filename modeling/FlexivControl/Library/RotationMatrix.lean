/-
Rotation matrices and the quaternions that stand for them.

The products of a quaternion's entries are linear in the entries of its matrix. For a
rotation matrix these products fit together: any of its four rows of products, divided by
twice the root of its diagonal entry, is a quaternion for the matrix.
-/

import FlexivControl.Library.Scalar
import Mathlib.LinearAlgebra.UnitaryGroup

section Entries

variable {R : Matrix (Fin 3) (Fin 3) ℝ}

theorem rotation_mul_transpose (rotation : R ∈ Matrix.specialOrthogonalGroup (Fin 3) ℝ) :
    R * R.transpose = 1 := by
  have orthogonal := (Matrix.mem_specialOrthogonalGroup_iff.mp rotation).1
  exact (Matrix.mem_orthogonalGroup_iff (Fin 3) ℝ).mp orthogonal

theorem rotation_transpose_mul (rotation : R ∈ Matrix.specialOrthogonalGroup (Fin 3) ℝ) :
    R.transpose * R = 1 :=
  mul_eq_one_comm.mp (rotation_mul_transpose rotation)

theorem rotation_row_unit (rotation : R ∈ Matrix.specialOrthogonalGroup (Fin 3) ℝ) (i : Fin 3) :
    R i 0 * R i 0 + R i 1 * R i 1 + R i 2 * R i 2 = 1 := by
  have entry := congrFun (congrFun (rotation_mul_transpose rotation) i) i
  rwa [Matrix.mul_apply, Fin.sum_univ_three, Matrix.one_apply_eq] at entry

theorem rotation_rows (rotation : R ∈ Matrix.specialOrthogonalGroup (Fin 3) ℝ) {i j : Fin 3}
    (apart : i ≠ j) : R i 0 * R j 0 + R i 1 * R j 1 + R i 2 * R j 2 = 0 := by
  have entry := congrFun (congrFun (rotation_mul_transpose rotation) i) j
  rwa [Matrix.mul_apply, Fin.sum_univ_three, Matrix.one_apply_ne apart] at entry

theorem rotation_column_unit (rotation : R ∈ Matrix.specialOrthogonalGroup (Fin 3) ℝ)
    (i : Fin 3) : R 0 i * R 0 i + R 1 i * R 1 i + R 2 i * R 2 i = 1 := by
  have entry := congrFun (congrFun (rotation_transpose_mul rotation) i) i
  rwa [Matrix.mul_apply, Fin.sum_univ_three, Matrix.one_apply_eq] at entry

theorem rotation_columns (rotation : R ∈ Matrix.specialOrthogonalGroup (Fin 3) ℝ) {i j : Fin 3}
    (apart : i ≠ j) : R 0 i * R 0 j + R 1 i * R 1 j + R 2 i * R 2 j = 0 := by
  have entry := congrFun (congrFun (rotation_transpose_mul rotation) i) j
  rwa [Matrix.mul_apply, Fin.sum_univ_three, Matrix.one_apply_ne apart] at entry

theorem rotation_cofactor (rotation : R ∈ Matrix.specialOrthogonalGroup (Fin 3) ℝ)
    (i j : Fin 3) :
    R i j = R (i + 1) (j + 1) * R (i + 2) (j + 2) - R (i + 1) (j + 2) * R (i + 2) (j + 1) := by
  have det := (Matrix.mem_specialOrthogonalGroup_iff.mp rotation).2
  have inverse := Matrix.mul_adjugate R
  rw [det, one_smul] at inverse
  have adjugate : R.transpose = R.adjugate := by
    calc R.transpose = R.transpose * (R * R.adjugate) := by rw [inverse, mul_one]
      _ = R.adjugate := by rw [← mul_assoc, rotation_transpose_mul rotation, one_mul]
  have entry : R i j = R.adjugate j i := congrFun (congrFun adjugate j) i
  rw [entry, Matrix.adjugate_fin_three]
  fin_cases i <;> fin_cases j <;> simp <;> ring

end Entries

namespace Quat

/-- The products of the quaternion's entries are those that the matrix asks for. -/
structure Represents (q : Quat ℝ) (R : Matrix (Fin 3) (Fin 3) ℝ) : Prop where
  ww : 4 * (q.w * q.w) = 1 + R 0 0 + R 1 1 + R 2 2
  xx : 4 * (q.x * q.x) = 1 + R 0 0 - R 1 1 - R 2 2
  yy : 4 * (q.y * q.y) = 1 - R 0 0 + R 1 1 - R 2 2
  zz : 4 * (q.z * q.z) = 1 - R 0 0 - R 1 1 + R 2 2
  wx : 4 * (q.w * q.x) = R 2 1 - R 1 2
  wy : 4 * (q.w * q.y) = R 0 2 - R 2 0
  wz : 4 * (q.w * q.z) = R 1 0 - R 0 1
  xy : 4 * (q.x * q.y) = R 0 1 + R 1 0
  xz : 4 * (q.x * q.z) = R 0 2 + R 2 0
  yz : 4 * (q.y * q.z) = R 1 2 + R 2 1

variable {q : Quat ℝ} {R : Matrix (Fin 3) (Fin 3) ℝ}

theorem Represents.neg (represents : q.Represents R) : (-q).Represents R where
  ww := (congrArg (4 * ·) (neg_mul_neg q.w q.w)).trans represents.ww
  xx := (congrArg (4 * ·) (neg_mul_neg q.x q.x)).trans represents.xx
  yy := (congrArg (4 * ·) (neg_mul_neg q.y q.y)).trans represents.yy
  zz := (congrArg (4 * ·) (neg_mul_neg q.z q.z)).trans represents.zz
  wx := (congrArg (4 * ·) (neg_mul_neg q.w q.x)).trans represents.wx
  wy := (congrArg (4 * ·) (neg_mul_neg q.w q.y)).trans represents.wy
  wz := (congrArg (4 * ·) (neg_mul_neg q.w q.z)).trans represents.wz
  xy := (congrArg (4 * ·) (neg_mul_neg q.x q.y)).trans represents.xy
  xz := (congrArg (4 * ·) (neg_mul_neg q.x q.z)).trans represents.xz
  yz := (congrArg (4 * ·) (neg_mul_neg q.y q.z)).trans represents.yz

theorem Represents.unit (represents : q.Represents R) : q.dot q = 1 := by
  rw [dot]
  linear_combination (1 / 4) * represents.ww + (1 / 4) * represents.xx +
    (1 / 4) * represents.yy + (1 / 4) * represents.zz

section Rows

variable {m n p r s : ℝ}

/-- Two entries of a row of products, divided by twice the root of its diagonal entry. -/
theorem products_of_row (scale : s * s = 4 * p) (positive : 0 < p) (fits : m * n = p * r) :
    4 * (m / s * (n / s)) = r := by
  have nonzero : s * s ≠ 0 := by
    rw [scale]
    exact (mul_pos four_pos positive).ne'
  rw [div_mul_div_comm, fits, mul_div_assoc', div_eq_iff nonzero, scale]
  ring

theorem diagonal_of_row (scale : s * s = 4 * p) : 4 * (1 / 4 * s * (1 / 4 * s)) = p := by
  linear_combination (1 / 4) * scale

theorem leading_of_row (scale : s * s = 4 * p) (positive : 0 < p) :
    4 * (1 / 4 * s * (m / s)) = m := by
  have nonzero : s ≠ 0 := by
    intro zero
    rw [zero, zero_mul] at scale
    linarith
  field_simp

theorem leading_of_row' (scale : s * s = 4 * p) (positive : 0 < p) :
    4 * (m / s * (1 / 4 * s)) = m := by
  rw [mul_comm (m / s)]
  exact leading_of_row scale positive

end Rows

section Represented

variable {s : ℝ} (rotation : R ∈ Matrix.specialOrthogonalGroup (Fin 3) ℝ)

include rotation

theorem square_wx : (R 2 1 - R 1 2) * (R 2 1 - R 1 2) =
    (1 + R 0 0 + R 1 1 + R 2 2) * (1 + R 0 0 - R 1 1 - R 2 2) := by
  have row1 := rotation_row_unit rotation 1
  have row2 := rotation_row_unit rotation 2
  have column0 := rotation_column_unit rotation 0
  have entry : R 0 0 = R 1 1 * R 2 2 - R 1 2 * R 2 1 := rotation_cofactor rotation 0 0
  linear_combination row1 + row2 - column0 - 2 * entry

theorem mixed_w_xy : (R 2 1 - R 1 2) * (R 0 2 - R 2 0) =
    (1 + R 0 0 + R 1 1 + R 2 2) * (R 0 1 + R 1 0) := by
  have rows := rotation_rows rotation zero_ne_one
  have columns := rotation_columns rotation zero_ne_one
  have upper : R 0 1 = R 1 2 * R 2 0 - R 1 0 * R 2 2 := rotation_cofactor rotation 0 1
  have lower : R 1 0 = R 2 1 * R 0 2 - R 2 2 * R 0 1 := rotation_cofactor rotation 1 0
  linear_combination -rows - columns - upper - lower

theorem mixed_w_xz : (R 2 1 - R 1 2) * (R 1 0 - R 0 1) =
    (1 + R 0 0 + R 1 1 + R 2 2) * (R 0 2 + R 2 0) := by
  have rows := rotation_rows rotation (by decide : (0 : Fin 3) ≠ 2)
  have columns := rotation_columns rotation (by decide : (0 : Fin 3) ≠ 2)
  have upper : R 0 2 = R 1 0 * R 2 1 - R 1 1 * R 2 0 := rotation_cofactor rotation 0 2
  have lower : R 2 0 = R 0 1 * R 1 2 - R 0 2 * R 1 1 := rotation_cofactor rotation 2 0
  linear_combination -rows - columns - upper - lower

theorem square_wy : (R 0 2 - R 2 0) * (R 0 2 - R 2 0) =
    (1 + R 0 0 + R 1 1 + R 2 2) * (1 - R 0 0 + R 1 1 - R 2 2) := by
  have row0 := rotation_row_unit rotation 0
  have row2 := rotation_row_unit rotation 2
  have column1 := rotation_column_unit rotation 1
  have entry : R 1 1 = R 2 2 * R 0 0 - R 2 0 * R 0 2 := rotation_cofactor rotation 1 1
  linear_combination row0 + row2 - column1 - 2 * entry

theorem mixed_w_yz : (R 0 2 - R 2 0) * (R 1 0 - R 0 1) =
    (1 + R 0 0 + R 1 1 + R 2 2) * (R 1 2 + R 2 1) := by
  have rows := rotation_rows rotation (by decide : (1 : Fin 3) ≠ 2)
  have columns := rotation_columns rotation (by decide : (1 : Fin 3) ≠ 2)
  have upper : R 1 2 = R 2 0 * R 0 1 - R 2 1 * R 0 0 := rotation_cofactor rotation 1 2
  have lower : R 2 1 = R 0 2 * R 1 0 - R 0 0 * R 1 2 := rotation_cofactor rotation 2 1
  linear_combination -rows - columns - upper - lower

theorem square_wz : (R 1 0 - R 0 1) * (R 1 0 - R 0 1) =
    (1 + R 0 0 + R 1 1 + R 2 2) * (1 - R 0 0 - R 1 1 + R 2 2) := by
  have row2 := rotation_row_unit rotation 2
  have column0 := rotation_column_unit rotation 0
  have column1 := rotation_column_unit rotation 1
  have entry : R 2 2 = R 0 0 * R 1 1 - R 0 1 * R 1 0 := rotation_cofactor rotation 2 2
  linear_combination -row2 + column0 + column1 - 2 * entry

theorem mixed_x_wy : (R 2 1 - R 1 2) * (R 0 1 + R 1 0) =
    (1 + R 0 0 - R 1 1 - R 2 2) * (R 0 2 - R 2 0) := by
  have rows := rotation_rows rotation (by decide : (0 : Fin 3) ≠ 2)
  have columns := rotation_columns rotation (by decide : (0 : Fin 3) ≠ 2)
  have upper : R 0 2 = R 1 0 * R 2 1 - R 1 1 * R 2 0 := rotation_cofactor rotation 0 2
  have lower : R 2 0 = R 0 1 * R 1 2 - R 0 2 * R 1 1 := rotation_cofactor rotation 2 0
  linear_combination rows - columns - upper + lower

theorem mixed_x_wz : (R 2 1 - R 1 2) * (R 0 2 + R 2 0) =
    (1 + R 0 0 - R 1 1 - R 2 2) * (R 1 0 - R 0 1) := by
  have rows := rotation_rows rotation zero_ne_one
  have columns := rotation_columns rotation zero_ne_one
  have upper : R 0 1 = R 1 2 * R 2 0 - R 1 0 * R 2 2 := rotation_cofactor rotation 0 1
  have lower : R 1 0 = R 2 1 * R 0 2 - R 2 2 * R 0 1 := rotation_cofactor rotation 1 0
  linear_combination -rows + columns + upper - lower

theorem square_xy : (R 0 1 + R 1 0) * (R 0 1 + R 1 0) =
    (1 + R 0 0 - R 1 1 - R 2 2) * (1 - R 0 0 + R 1 1 - R 2 2) := by
  have row2 := rotation_row_unit rotation 2
  have column0 := rotation_column_unit rotation 0
  have column1 := rotation_column_unit rotation 1
  have entry : R 2 2 = R 0 0 * R 1 1 - R 0 1 * R 1 0 := rotation_cofactor rotation 2 2
  linear_combination -row2 + column0 + column1 + 2 * entry

theorem mixed_x_yz : (R 0 1 + R 1 0) * (R 0 2 + R 2 0) =
    (1 + R 0 0 - R 1 1 - R 2 2) * (R 1 2 + R 2 1) := by
  have rows := rotation_rows rotation (by decide : (1 : Fin 3) ≠ 2)
  have columns := rotation_columns rotation (by decide : (1 : Fin 3) ≠ 2)
  have upper : R 1 2 = R 2 0 * R 0 1 - R 2 1 * R 0 0 := rotation_cofactor rotation 1 2
  have lower : R 2 1 = R 0 2 * R 1 0 - R 0 0 * R 1 2 := rotation_cofactor rotation 2 1
  linear_combination rows + columns - upper - lower

theorem square_xz : (R 0 2 + R 2 0) * (R 0 2 + R 2 0) =
    (1 + R 0 0 - R 1 1 - R 2 2) * (1 - R 0 0 - R 1 1 + R 2 2) := by
  have row0 := rotation_row_unit rotation 0
  have row2 := rotation_row_unit rotation 2
  have column1 := rotation_column_unit rotation 1
  have entry : R 1 1 = R 2 2 * R 0 0 - R 2 0 * R 0 2 := rotation_cofactor rotation 1 1
  linear_combination row0 + row2 - column1 + 2 * entry

theorem mixed_y_wx : (R 0 2 - R 2 0) * (R 0 1 + R 1 0) =
    (1 - R 0 0 + R 1 1 - R 2 2) * (R 2 1 - R 1 2) := by
  have rows := rotation_rows rotation (by decide : (1 : Fin 3) ≠ 2)
  have columns := rotation_columns rotation (by decide : (1 : Fin 3) ≠ 2)
  have upper : R 1 2 = R 2 0 * R 0 1 - R 2 1 * R 0 0 := rotation_cofactor rotation 1 2
  have lower : R 2 1 = R 0 2 * R 1 0 - R 0 0 * R 1 2 := rotation_cofactor rotation 2 1
  linear_combination -rows + columns + upper - lower

theorem mixed_y_wz : (R 0 2 - R 2 0) * (R 1 2 + R 2 1) =
    (1 - R 0 0 + R 1 1 - R 2 2) * (R 1 0 - R 0 1) := by
  have rows := rotation_rows rotation zero_ne_one
  have columns := rotation_columns rotation zero_ne_one
  have upper : R 0 1 = R 1 2 * R 2 0 - R 1 0 * R 2 2 := rotation_cofactor rotation 0 1
  have lower : R 1 0 = R 2 1 * R 0 2 - R 2 2 * R 0 1 := rotation_cofactor rotation 1 0
  linear_combination rows - columns + upper - lower

theorem mixed_y_xz : (R 0 1 + R 1 0) * (R 1 2 + R 2 1) =
    (1 - R 0 0 + R 1 1 - R 2 2) * (R 0 2 + R 2 0) := by
  have rows := rotation_rows rotation (by decide : (0 : Fin 3) ≠ 2)
  have columns := rotation_columns rotation (by decide : (0 : Fin 3) ≠ 2)
  have upper : R 0 2 = R 1 0 * R 2 1 - R 1 1 * R 2 0 := rotation_cofactor rotation 0 2
  have lower : R 2 0 = R 0 1 * R 1 2 - R 0 2 * R 1 1 := rotation_cofactor rotation 2 0
  linear_combination rows + columns - upper - lower

theorem square_yz : (R 1 2 + R 2 1) * (R 1 2 + R 2 1) =
    (1 - R 0 0 + R 1 1 - R 2 2) * (1 - R 0 0 - R 1 1 + R 2 2) := by
  have row1 := rotation_row_unit rotation 1
  have row2 := rotation_row_unit rotation 2
  have column0 := rotation_column_unit rotation 0
  have entry : R 0 0 = R 1 1 * R 2 2 - R 1 2 * R 2 1 := rotation_cofactor rotation 0 0
  linear_combination row1 + row2 - column0 + 2 * entry

theorem mixed_z_wx : (R 1 0 - R 0 1) * (R 0 2 + R 2 0) =
    (1 - R 0 0 - R 1 1 + R 2 2) * (R 2 1 - R 1 2) := by
  have rows := rotation_rows rotation (by decide : (1 : Fin 3) ≠ 2)
  have columns := rotation_columns rotation (by decide : (1 : Fin 3) ≠ 2)
  have upper : R 1 2 = R 2 0 * R 0 1 - R 2 1 * R 0 0 := rotation_cofactor rotation 1 2
  have lower : R 2 1 = R 0 2 * R 1 0 - R 0 0 * R 1 2 := rotation_cofactor rotation 2 1
  linear_combination rows - columns + upper - lower

theorem mixed_z_wy : (R 1 0 - R 0 1) * (R 1 2 + R 2 1) =
    (1 - R 0 0 - R 1 1 + R 2 2) * (R 0 2 - R 2 0) := by
  have rows := rotation_rows rotation (by decide : (0 : Fin 3) ≠ 2)
  have columns := rotation_columns rotation (by decide : (0 : Fin 3) ≠ 2)
  have upper : R 0 2 = R 1 0 * R 2 1 - R 1 1 * R 2 0 := rotation_cofactor rotation 0 2
  have lower : R 2 0 = R 0 1 * R 1 2 - R 0 2 * R 1 1 := rotation_cofactor rotation 2 0
  linear_combination -rows + columns - upper + lower

theorem mixed_z_xy : (R 0 2 + R 2 0) * (R 1 2 + R 2 1) =
    (1 - R 0 0 - R 1 1 + R 2 2) * (R 0 1 + R 1 0) := by
  have rows := rotation_rows rotation zero_ne_one
  have columns := rotation_columns rotation zero_ne_one
  have upper : R 0 1 = R 1 2 * R 2 0 - R 1 0 * R 2 2 := rotation_cofactor rotation 0 1
  have lower : R 1 0 = R 2 1 * R 0 2 - R 2 2 * R 0 1 := rotation_cofactor rotation 1 0
  linear_combination rows + columns - upper - lower

/-- The row of products of the entry `w`. -/
theorem represents_w (scale : s * s = 4 * (1 + R 0 0 + R 1 1 + R 2 2))
    (positive : 0 < 1 + R 0 0 + R 1 1 + R 2 2) :
    Represents ⟨1 / 4 * s, (R 2 1 - R 1 2) / s,
      (R 0 2 - R 2 0) / s, (R 1 0 - R 0 1) / s⟩ R where
  ww := diagonal_of_row scale
  xx := products_of_row scale positive (square_wx rotation)
  yy := products_of_row scale positive (square_wy rotation)
  zz := products_of_row scale positive (square_wz rotation)
  wx := leading_of_row scale positive
  wy := leading_of_row scale positive
  wz := leading_of_row scale positive
  xy := products_of_row scale positive (mixed_w_xy rotation)
  xz := products_of_row scale positive (mixed_w_xz rotation)
  yz := products_of_row scale positive (mixed_w_yz rotation)

/-- The row of products of the entry `x`. -/
theorem represents_x (scale : s * s = 4 * (1 + R 0 0 - R 1 1 - R 2 2))
    (positive : 0 < 1 + R 0 0 - R 1 1 - R 2 2) :
    Represents ⟨(R 2 1 - R 1 2) / s, 1 / 4 * s,
      (R 0 1 + R 1 0) / s, (R 0 2 + R 2 0) / s⟩ R where
  ww := products_of_row scale positive ((square_wx rotation).trans (mul_comm _ _))
  xx := diagonal_of_row scale
  yy := products_of_row scale positive (square_xy rotation)
  zz := products_of_row scale positive (square_xz rotation)
  wx := leading_of_row' scale positive
  wy := products_of_row scale positive (mixed_x_wy rotation)
  wz := products_of_row scale positive (mixed_x_wz rotation)
  xy := leading_of_row scale positive
  xz := leading_of_row scale positive
  yz := products_of_row scale positive (mixed_x_yz rotation)

/-- The row of products of the entry `y`. -/
theorem represents_y (scale : s * s = 4 * (1 - R 0 0 + R 1 1 - R 2 2))
    (positive : 0 < 1 - R 0 0 + R 1 1 - R 2 2) :
    Represents ⟨(R 0 2 - R 2 0) / s, (R 0 1 + R 1 0) / s,
      1 / 4 * s, (R 1 2 + R 2 1) / s⟩ R where
  ww := products_of_row scale positive ((square_wy rotation).trans (mul_comm _ _))
  xx := products_of_row scale positive ((square_xy rotation).trans (mul_comm _ _))
  yy := diagonal_of_row scale
  zz := products_of_row scale positive (square_yz rotation)
  wx := products_of_row scale positive (mixed_y_wx rotation)
  wy := leading_of_row' scale positive
  wz := products_of_row scale positive (mixed_y_wz rotation)
  xy := leading_of_row' scale positive
  xz := products_of_row scale positive (mixed_y_xz rotation)
  yz := leading_of_row scale positive

/-- The row of products of the entry `z`. -/
theorem represents_z (scale : s * s = 4 * (1 - R 0 0 - R 1 1 + R 2 2))
    (positive : 0 < 1 - R 0 0 - R 1 1 + R 2 2) :
    Represents ⟨(R 1 0 - R 0 1) / s, (R 0 2 + R 2 0) / s,
      (R 1 2 + R 2 1) / s, 1 / 4 * s⟩ R where
  ww := products_of_row scale positive ((square_wz rotation).trans (mul_comm _ _))
  xx := products_of_row scale positive ((square_xz rotation).trans (mul_comm _ _))
  yy := products_of_row scale positive ((square_yz rotation).trans (mul_comm _ _))
  zz := diagonal_of_row scale
  wx := products_of_row scale positive (mixed_z_wx rotation)
  wy := products_of_row scale positive (mixed_z_wy rotation)
  wz := leading_of_row' scale positive
  xy := products_of_row scale positive (mixed_z_xy rotation)
  xz := leading_of_row' scale positive
  yz := leading_of_row' scale positive

end Represented

end Quat
