/-
From a rotation matrix to its quaternion.

The largest of four numbers, the trace and three that each put one diagonal entry against
the other two, decides which entry of the quaternion is found by a square root. It is at
least one, so that the root and the divisions by it are safe.
-/

import FlexivControl.Filter.RigidMotion
import FlexivControl.Library.RotationMatrix

namespace FlexivControl

section Source

variable {K : Type} [Scalar K]

/-- The branch taken: what the square root is taken of, and the quaternion made from twice
the root. -/
def shepperd (R : Matrix (Fin 3) (Fin 3) K) : K × (K → Quat K) :=
  let t := R 0 0 + R 1 1 + R 2 2
  if 0 < t then
    (t + 1, fun s => ⟨Scalar.ofRat (1 / 4) * s, (R 2 1 - R 1 2) / s, (R 0 2 - R 2 0) / s,
      (R 1 0 - R 0 1) / s⟩)
  else if R 1 1 < R 0 0 ∧ R 2 2 < R 0 0 then
    (1 + R 0 0 - R 1 1 - R 2 2, fun s => ⟨(R 2 1 - R 1 2) / s, Scalar.ofRat (1 / 4) * s,
      (R 0 1 + R 1 0) / s, (R 0 2 + R 2 0) / s⟩)
  else if R 2 2 < R 1 1 then
    (1 + R 1 1 - R 0 0 - R 2 2, fun s => ⟨(R 0 2 - R 2 0) / s, (R 0 1 + R 1 0) / s,
      Scalar.ofRat (1 / 4) * s, (R 1 2 + R 2 1) / s⟩)
  else
    (1 + R 2 2 - R 0 0 - R 1 1, fun s => ⟨(R 1 0 - R 0 1) / s, (R 0 2 + R 2 0) / s,
      (R 1 2 + R 2 1) / s, Scalar.ofRat (1 / 4) * s⟩)

/-- Twice the root: what the branch divides by. -/
def shepperdScale (R : Matrix (Fin 3) (Fin 3) K) : K :=
  Scalar.sqrt (shepperd R).1 * Scalar.ofNat 2

def matToQuat (R : Matrix (Fin 3) (Fin 3) K) : Quat K :=
  quatNormalize ((shepperd R).2 (shepperdScale R))

end Source

section Real

variable {R : Matrix (Fin 3) (Fin 3) ℝ}

theorem shepperd_radicand (R : Matrix (Fin 3) (Fin 3) ℝ) : 1 ≤ (shepperd R).1 := by
  unfold shepperd
  dsimp only
  by_cases trace : 0 < R 0 0 + R 1 1 + R 2 2
  · rw [if_pos trace]
    linarith
  · rw [if_neg trace]
    by_cases first : R 1 1 < R 0 0 ∧ R 2 2 < R 0 0
    · rw [if_pos first]
      linarith
    · rw [if_neg first]
      by_cases second : R 2 2 < R 1 1
      · rw [if_pos second]
        have above : R 0 0 ≤ R 1 1 := by
          by_contra below
          exact first ⟨not_le.mp below, second.trans (not_le.mp below)⟩
        linarith
      · rw [if_neg second]
        have above : R 0 0 ≤ R 2 2 := by
          by_contra below
          exact first ⟨lt_of_le_of_lt (not_lt.mp second) (not_le.mp below), not_le.mp below⟩
        linarith

theorem shepperdScale_sq (R : Matrix (Fin 3) (Fin 3) ℝ) :
    shepperdScale R * shepperdScale R = 4 * (shepperd R).1 := by
  have radicand := shepperd_radicand R
  have root := Real.mul_self_sqrt (zero_le_one.trans radicand)
  rw [shepperdScale, Scalar.sqrt_real, Scalar.ofNat_real]
  push_cast
  linear_combination 4 * root

theorem shepperd_represents (rotation : R ∈ Matrix.specialOrthogonalGroup (Fin 3) ℝ) :
    ((shepperd R).2 (shepperdScale R)).Represents R := by
  have scale := shepperdScale_sq R
  have radicand := shepperd_radicand R
  have quarter : (Scalar.ofRat (1 / 4) : ℝ) = 1 / 4 := by
    rw [Scalar.ofRat_real]
    push_cast
    rfl
  generalize shepperdScale R = s at scale
  unfold shepperd at scale radicand ⊢
  dsimp only at scale radicand ⊢
  by_cases trace : 0 < R 0 0 + R 1 1 + R 2 2
  · rw [if_pos trace] at scale radicand ⊢
    have same : R 0 0 + R 1 1 + R 2 2 + 1 = 1 + R 0 0 + R 1 1 + R 2 2 := by ring
    dsimp only at scale radicand ⊢
    rw [same] at scale radicand
    rw [quarter]
    exact Quat.represents_w rotation scale (by linarith)
  · rw [if_neg trace] at scale radicand ⊢
    by_cases first : R 1 1 < R 0 0 ∧ R 2 2 < R 0 0
    · rw [if_pos first] at scale radicand ⊢
      dsimp only at scale radicand ⊢
      rw [quarter]
      exact Quat.represents_x rotation scale (by linarith)
    · rw [if_neg first] at scale radicand ⊢
      by_cases second : R 2 2 < R 1 1
      · rw [if_pos second] at scale radicand ⊢
        have same : 1 + R 1 1 - R 0 0 - R 2 2 = 1 - R 0 0 + R 1 1 - R 2 2 := by ring
        dsimp only at scale radicand ⊢
        rw [same] at scale radicand
        rw [quarter]
        exact Quat.represents_y rotation scale (by linarith)
      · rw [if_neg second] at scale radicand ⊢
        have same : 1 + R 2 2 - R 0 0 - R 1 1 = 1 - R 0 0 - R 1 1 + R 2 2 := by ring
        dsimp only at scale radicand ⊢
        rw [same] at scale radicand
        rw [quarter]
        exact Quat.represents_z rotation scale (by linarith)

theorem quatRotate_represents {q : Quat ℝ} (represents : q.Represents R)
    (normal : quatNormalize q = q) (v : Vec3 ℝ) :
    ![(quatRotate q v).x, (quatRotate q v).y, (quatRotate q v).z] =
      R.mulVec ![v.x, v.y, v.z] := by
  obtain ⟨ww, xx, yy, zz, wx, wy, wz, xy, xz, yz⟩ := represents
  have rotated : quatRotate q v = ⟨(quatMul (quatMul q ⟨0, v.x, v.y, v.z⟩) (quatConj q)).x,
      (quatMul (quatMul q ⟨0, v.x, v.y, v.z⟩) (quatConj q)).y,
      (quatMul (quatMul q ⟨0, v.x, v.y, v.z⟩) (quatConj q)).z⟩ := by
    unfold quatRotate
    dsimp only
    rw [normal]
  have first : (quatRotate q v).x = R 0 0 * v.x + R 0 1 * v.y + R 0 2 * v.z := by
    rw [rotated]
    simp only [quatMul, quatConj]
    linear_combination (v.x / 4) * (ww + xx - yy - zz) + (v.y / 2) * (xy - wz) +
      (v.z / 2) * (xz + wy)
  have second : (quatRotate q v).y = R 1 0 * v.x + R 1 1 * v.y + R 1 2 * v.z := by
    rw [rotated]
    simp only [quatMul, quatConj]
    linear_combination (v.x / 2) * (xy + wz) + (v.y / 4) * (ww - xx + yy - zz) +
      (v.z / 2) * (yz - wx)
  have third : (quatRotate q v).z = R 2 0 * v.x + R 2 1 * v.y + R 2 2 * v.z := by
    rw [rotated]
    simp only [quatMul, quatConj]
    linear_combination (v.x / 2) * (xz - wy) + (v.y / 2) * (yz + wx) +
      (v.z / 4) * (ww - xx - yy + zz)
  rw [first, second, third]
  ext i
  fin_cases i <;> simp [Matrix.mulVec, dotProduct, Fin.sum_univ_three]

/-- `mat_to_quat` inverts every rotation matrix: the root it takes is of a positive number,
it divides by positive numbers only, and its unit quaternion rotates as the matrix does. -/
theorem matToQuat_rotates (rotation : R ∈ Matrix.specialOrthogonalGroup (Fin 3) ℝ) :
    0 < (shepperd R).1 ∧ 0 < shepperdScale R ∧
      ((shepperd R).2 (shepperdScale R)).dot ((shepperd R).2 (shepperdScale R)) = 1 ∧
      (matToQuat R).norm = 1 ∧ 0 ≤ (matToQuat R).w ∧
      ∀ v, ![(quatRotate (matToQuat R) v).x, (quatRotate (matToQuat R) v).y,
        (quatRotate (matToQuat R) v).z] = R.mulVec ![v.x, v.y, v.z] := by
  have radicand := lt_of_lt_of_le zero_lt_one (shepperd_radicand R)
  have scale : 0 < shepperdScale R := by
    rw [shepperdScale, Scalar.sqrt_real, Scalar.ofNat_real]
    exact mul_pos (Real.sqrt_pos.mpr radicand) (by norm_num)
  have raw := shepperd_represents rotation
  have unit : ((shepperd R).2 (shepperdScale R)).norm = 1 := by
    rw [Quat.norm, raw.unit, Scalar.sqrt_real, Real.sqrt_one]
  have represents : (matToQuat R).Represents R := by
    rcases quatNormalize_of_norm_one unit with same | opposite
    · rw [matToQuat, same]
      exact raw
    · rw [matToQuat, opposite]
      exact raw.neg
  obtain ⟨norm, sign⟩ := quatNormalize_spec ((shepperd R).2 (shepperdScale R))
  refine ⟨radicand, scale, raw.unit, norm, sign, ?_⟩
  exact quatRotate_represents represents (quatNormalize_idem _)

def flipMatrix : Matrix (Fin 3) (Fin 3) ℝ := !![1, 0, 0; 0, -1, 0; 0, 0, -1]

theorem flipMatrix_rotation : flipMatrix ∈ Matrix.specialOrthogonalGroup (Fin 3) ℝ := by
  rw [Matrix.mem_specialOrthogonalGroup_iff, Matrix.mem_orthogonalGroup_iff]
  constructor
  · ext i j
    fin_cases i <;> fin_cases j <;>
      simp [flipMatrix, Matrix.mul_apply, Fin.sum_univ_three, Matrix.transpose]
  · rw [Matrix.det_fin_three]
    simp [flipMatrix]

theorem matToQuat_rotates_flip :
    0 < (shepperd flipMatrix).1 ∧ 0 < shepperdScale flipMatrix ∧
      ((shepperd flipMatrix).2 (shepperdScale flipMatrix)).dot
        ((shepperd flipMatrix).2 (shepperdScale flipMatrix)) = 1 ∧
      (matToQuat flipMatrix).norm = 1 ∧ 0 ≤ (matToQuat flipMatrix).w ∧
      ∀ v, ![(quatRotate (matToQuat flipMatrix) v).x, (quatRotate (matToQuat flipMatrix) v).y,
        (quatRotate (matToQuat flipMatrix) v).z] = flipMatrix.mulVec ![v.x, v.y, v.z] :=
  matToQuat_rotates flipMatrix_rotation

end Real

end FlexivControl
