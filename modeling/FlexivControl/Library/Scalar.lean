/-
The scalar operations of a numerical program, and small vectors over them.

A program is written once against `Scalar`, which asks for operations and no
laws; the reals are the exact instance. Comparison operators and the builtin
`max` follow the language's own definitions, so that an instance whose order is
partial keeps their behaviour.
-/

import Mathlib.Analysis.InnerProductSpace.PiL2
import Mathlib.Analysis.SpecialFunctions.Trigonometric.Inverse

class Scalar (K : Type) extends Zero K, One K, Add K, Sub K, Mul K, Div K, Neg K, LT K, LE K where
  decLT : DecidableLT K
  decLE : DecidableLE K
  ofRat : ℚ → K
  isFinite : K → Bool
  minimum : K → K → K
  maximum : K → K → K
  round : K → Int
  ceil : K → Int
  sqrt : K → K
  cos : K → K
  sin : K → K
  arccos : K → K
  pi : K

namespace Scalar

attribute [reducible, instance] Scalar.decLT Scalar.decLE

section Operations

variable {K : Type} [Scalar K]

def ofNat (n : Nat) : K := ofRat n

def ofInt (n : Int) : K := ofRat n

def abs (x : K) : K := if x < 0 then -x else x

def sign (x : K) : K := if x < 0 then -1 else if 0 < x then 1 else 0

/-- The builtin `max`: the second argument wins only when it is greater. -/
def greater (a b : K) : K := if a < b then b else a

/-- The builtin `min`: the second argument wins only when it is smaller. -/
def lesser (a b : K) : K := if b < a then b else a

def clip (x lower upper : K) : K := minimum (maximum x lower) upper

/-- Elementwise closeness with the array library's default tolerances. -/
def close (a b : K) : Bool :=
  (decide (abs (a - b) ≤ ofRat (1 / 100000000) + ofRat (1 / 100000) * abs b) && isFinite b) ||
    (decide (a ≤ b) && decide (b ≤ a))

end Operations

instance atLeastTwo_two : Nat.AtLeastTwo 2 := inferInstance
instance atLeastTwo_three : Nat.AtLeastTwo 3 := inferInstance
instance atLeastTwo_four : Nat.AtLeastTwo 4 := inferInstance
instance atLeastTwo_five : Nat.AtLeastTwo 5 := inferInstance
instance atLeastTwo_ten : Nat.AtLeastTwo 10 := inferInstance
instance atLeastTwo_thirtyFive : Nat.AtLeastTwo 35 := inferInstance
instance atLeastTwo_hundred : Nat.AtLeastTwo 100 := inferInstance
instance atLeastTwo_tenBillion : Nat.AtLeastTwo 10000000000 := inferInstance

/-- Round half to even, as the language's `round` does. -/
noncomputable def roundEven (x : ℝ) : Int :=
  if Int.fract x = 1 / 2 then
    if Even ⌊x⌋ then ⌊x⌋ else ⌊x⌋ + 1
  else ⌊x + 1 / 2⌋

theorem roundEven_natCast (n : ℕ) : roundEven n = n := by
  have whole : ¬ Int.fract (n : ℝ) = 1 / 2 := by
    rw [Int.fract_natCast]
    norm_num
  have floored : ⌊(n : ℝ) + 1 / 2⌋ = n := by
    rw [Int.floor_eq_iff]
    push_cast
    constructor
    · linarith
    · linarith
  rw [roundEven, if_neg whole, floored]

noncomputable instance real : Scalar ℝ where
  decLT := inferInstance
  decLE := inferInstance
  ofRat := fun q => (q : ℝ)
  isFinite := fun _ => true
  minimum := min
  maximum := max
  round := roundEven
  ceil := fun x => ⌈x⌉
  sqrt := Real.sqrt
  cos := Real.cos
  sin := Real.sin
  arccos := Real.arccos
  pi := Real.pi

section Real

@[simp] theorem ofRat_real (q : ℚ) : (ofRat q : ℝ) = (q : ℝ) := rfl

@[simp] theorem ofNat_real (n : Nat) : (ofNat n : ℝ) = (n : ℝ) := by
  simp only [ofNat, ofRat_real, Rat.cast_natCast]

@[simp] theorem ofInt_real (n : Int) : (ofInt n : ℝ) = (n : ℝ) := by
  simp only [ofInt, ofRat_real, Rat.cast_intCast]

@[simp] theorem minimum_real (a b : ℝ) : minimum a b = min a b := rfl

@[simp] theorem maximum_real (a b : ℝ) : maximum a b = max a b := rfl

@[simp] theorem ceil_real (x : ℝ) : ceil x = ⌈x⌉ := rfl

@[simp] theorem sqrt_real (x : ℝ) : sqrt x = Real.sqrt x := rfl

@[simp] theorem abs_real (x : ℝ) : abs x = |x| := by
  unfold abs
  split
  · rename_i negative
    exact (abs_of_neg negative).symm
  · rename_i nonneg
    exact (abs_of_nonneg (not_lt.mp nonneg)).symm

@[simp] theorem greater_real (a b : ℝ) : greater a b = max a b := by
  unfold greater
  split
  · rename_i less
    exact (max_eq_right less.le).symm
  · rename_i atLeast
    exact (max_eq_left (not_lt.mp atLeast)).symm

@[simp] theorem lesser_real (a b : ℝ) : lesser a b = min a b := by
  unfold lesser
  split
  · rename_i less
    exact (min_eq_right less.le).symm
  · rename_i atLeast
    exact (min_eq_left (not_lt.mp atLeast)).symm

@[simp] theorem clip_real (x lower upper : ℝ) : clip x lower upper = min (max x lower) upper := rfl

theorem close_real (a b : ℝ) :
    close a b = true ↔ |a - b| ≤ 1 / 100000000 + 1 / 100000 * |b| := by
  have finite : isFinite b = true := rfl
  simp only [close, abs_real, ofRat_real, finite, Bool.and_true, Bool.or_eq_true,
    decide_eq_true_eq, Bool.and_eq_true]
  push_cast
  constructor
  · rintro (near | ⟨below, above⟩)
    · exact near
    · rw [le_antisymm below above, sub_self, abs_zero]
      positivity
  · exact Or.inl

end Real

end Scalar

/-! ### Positions -/

@[ext] structure Vec3 (K : Type) where
  x : K
  y : K
  z : K

namespace Vec3

variable {K : Type} [Scalar K]

instance : Zero (Vec3 K) := ⟨⟨0, 0, 0⟩⟩

instance : Add (Vec3 K) := ⟨fun v w => ⟨v.x + w.x, v.y + w.y, v.z + w.z⟩⟩

instance : Sub (Vec3 K) := ⟨fun v w => ⟨v.x - w.x, v.y - w.y, v.z - w.z⟩⟩

instance : HMul (Vec3 K) K (Vec3 K) := ⟨fun v s => ⟨v.x * s, v.y * s, v.z * s⟩⟩

instance : HDiv (Vec3 K) K (Vec3 K) := ⟨fun v s => ⟨v.x / s, v.y / s, v.z / s⟩⟩

def norm (v : Vec3 K) : K := Scalar.sqrt (v.x * v.x + v.y * v.y + v.z * v.z)

@[simp] theorem zero_x : (0 : Vec3 K).x = 0 := rfl
@[simp] theorem zero_y : (0 : Vec3 K).y = 0 := rfl
@[simp] theorem zero_z : (0 : Vec3 K).z = 0 := rfl
@[simp] theorem add_x (v w : Vec3 K) : (v + w).x = v.x + w.x := rfl
@[simp] theorem add_y (v w : Vec3 K) : (v + w).y = v.y + w.y := rfl
@[simp] theorem add_z (v w : Vec3 K) : (v + w).z = v.z + w.z := rfl
@[simp] theorem sub_x (v w : Vec3 K) : (v - w).x = v.x - w.x := rfl
@[simp] theorem sub_y (v w : Vec3 K) : (v - w).y = v.y - w.y := rfl
@[simp] theorem sub_z (v w : Vec3 K) : (v - w).z = v.z - w.z := rfl
@[simp] theorem mul_x (v : Vec3 K) (s : K) : (v * s).x = v.x * s := rfl
@[simp] theorem mul_y (v : Vec3 K) (s : K) : (v * s).y = v.y * s := rfl
@[simp] theorem mul_z (v : Vec3 K) (s : K) : (v * s).z = v.z * s := rfl
@[simp] theorem div_x (v : Vec3 K) (s : K) : (v / s).x = v.x / s := rfl
@[simp] theorem div_y (v : Vec3 K) (s : K) : (v / s).y = v.y / s := rfl
@[simp] theorem div_z (v : Vec3 K) (s : K) : (v / s).z = v.z / s := rfl

noncomputable def toE (v : Vec3 ℝ) : EuclideanSpace ℝ (Fin 3) := !₂[v.x, v.y, v.z]

theorem toE_injective : Function.Injective toE := by
  intro v w same
  have components := congrArg (fun e : EuclideanSpace ℝ (Fin 3) => (e 0, e 1, e 2)) same
  simp only [toE, PiLp.toLp_apply, Matrix.cons_val_zero, Matrix.cons_val_one, Matrix.cons_val,
    Prod.mk.injEq] at components
  exact Vec3.ext components.1 components.2.1 components.2.2

@[simp] theorem toE_zero : toE 0 = 0 := by
  ext i
  fin_cases i <;> rfl

@[simp] theorem toE_add (v w : Vec3 ℝ) : toE (v + w) = toE v + toE w := by
  ext i
  fin_cases i <;> rfl

@[simp] theorem toE_sub (v w : Vec3 ℝ) : toE (v - w) = toE v - toE w := by
  ext i
  fin_cases i <;> rfl

@[simp] theorem toE_mul (v : Vec3 ℝ) (s : ℝ) : toE (v * s) = s • toE v := by
  ext i
  fin_cases i <;> exact mul_comm _ _

@[simp] theorem toE_div (v : Vec3 ℝ) (s : ℝ) : toE (v / s) = s⁻¹ • toE v := by
  ext i
  fin_cases i <;> exact (div_eq_mul_inv _ _).trans (mul_comm _ _)

theorem norm_toE (v : Vec3 ℝ) : ‖toE v‖ = v.norm := by
  rw [EuclideanSpace.norm_eq, norm, Fin.sum_univ_three]
  simp only [toE, PiLp.toLp_apply, Matrix.cons_val_zero, Matrix.cons_val_one, Matrix.cons_val,
    Real.norm_eq_abs, pow_two, abs_mul_abs_self, Scalar.sqrt_real]

end Vec3

/-! ### Quaternions, scalar part first -/

@[ext] structure Quat (K : Type) where
  w : K
  x : K
  y : K
  z : K

namespace Quat

variable {K : Type} [Scalar K]

instance : One (Quat K) := ⟨⟨1, 0, 0, 0⟩⟩

instance : Neg (Quat K) := ⟨fun q => ⟨-q.w, -q.x, -q.y, -q.z⟩⟩

instance : Add (Quat K) := ⟨fun q r => ⟨q.w + r.w, q.x + r.x, q.y + r.y, q.z + r.z⟩⟩

instance : Sub (Quat K) := ⟨fun q r => ⟨q.w - r.w, q.x - r.x, q.y - r.y, q.z - r.z⟩⟩

instance : HMul K (Quat K) (Quat K) := ⟨fun s q => ⟨s * q.w, s * q.x, s * q.y, s * q.z⟩⟩

instance : HDiv (Quat K) K (Quat K) := ⟨fun q s => ⟨q.w / s, q.x / s, q.y / s, q.z / s⟩⟩

def dot (q r : Quat K) : K := q.w * r.w + q.x * r.x + q.y * r.y + q.z * r.z

def norm (q : Quat K) : K := Scalar.sqrt (dot q q)

end Quat
