/-
Numbers with infinities and a not-a-number.

Finite values are the reals, without rounding and with one zero, which divides as the
positive one does. Comparisons with not-a-number fail and arithmetic passes it on, so a
limit written as a test for too much lets it through.
-/

import FlexivControl.Library.Scalar

inductive Ieee where
  | nan
  | inf (negative : Bool)
  | fin (x : ℝ)

namespace Ieee

noncomputable section

def scale (negative : Bool) (y : ℝ) : Ieee :=
  if 0 < y then .inf negative else if y < 0 then .inf (!negative) else .nan

def neg : Ieee → Ieee
  | .nan => .nan
  | .inf s => .inf (!s)
  | .fin x => .fin (-x)

def add : Ieee → Ieee → Ieee
  | .fin x, .fin y => .fin (x + y)
  | .fin _, .inf t => .inf t
  | .inf s, .fin _ => .inf s
  | .inf s, .inf t => if s = t then .inf s else .nan
  | _, _ => .nan

def mul : Ieee → Ieee → Ieee
  | .fin x, .fin y => .fin (x * y)
  | .fin x, .inf t => scale t x
  | .inf s, .fin y => scale s y
  | .inf s, .inf t => .inf (s != t)
  | _, _ => .nan

def div : Ieee → Ieee → Ieee
  | .fin x, .fin y => if y = 0 then scale false x else .fin (x / y)
  | .fin _, .inf _ => .fin 0
  | .inf s, .fin y => if y < 0 then .inf (!s) else .inf s
  | _, _ => .nan

def lt : Ieee → Ieee → Prop
  | .fin x, .fin y => x < y
  | .fin _, .inf t => t = false
  | .inf s, .fin _ => s = true
  | .inf s, .inf t => s = true ∧ t = false
  | _, _ => False

def le : Ieee → Ieee → Prop
  | .fin x, .fin y => x ≤ y
  | .fin _, .inf t => t = false
  | .inf s, .fin _ => s = true
  | .inf s, .inf t => s = true ∨ t = false
  | _, _ => False

/-- The array library's minimum, which passes not-a-number on. -/
def minimum (a b : Ieee) : Ieee :=
  open Classical in
  match a, b with
  | .nan, _ => .nan
  | _, .nan => .nan
  | a, b => if le a b then a else b

def maximum (a b : Ieee) : Ieee :=
  open Classical in
  match a, b with
  | .nan, _ => .nan
  | _, .nan => .nan
  | a, b => if le b a then a else b

def sqrt : Ieee → Ieee
  | .fin x => if x < 0 then .nan else .fin (Real.sqrt x)
  | .inf false => .inf false
  | _ => .nan

def sin : Ieee → Ieee
  | .fin x => .fin (Real.sin x)
  | _ => .nan

def cos : Ieee → Ieee
  | .fin x => .fin (Real.cos x)
  | _ => .nan

def arccos : Ieee → Ieee
  | .fin x => if -1 ≤ x ∧ x ≤ 1 then .fin (Real.arccos x) else .nan
  | _ => .nan

/-- An integer made of a finite value; the language raises at the others. -/
def toInt (rounding : ℝ → Int) : Ieee → Int
  | .fin x => rounding x
  | _ => 0

instance scalar : Scalar Ieee where
  zero := .fin 0
  one := .fin 1
  add := add
  sub a b := add a (neg b)
  mul := mul
  div := div
  neg := neg
  lt := lt
  le := le
  decLT := Classical.decRel lt
  decLE := Classical.decRel le
  ofRat q := .fin q
  isFinite
    | .fin _ => true
    | _ => false
  minimum := minimum
  maximum := maximum
  round := toInt Scalar.roundEven
  ceil := toInt fun x => ⌈x⌉
  sqrt := sqrt
  cos := cos
  sin := sin
  arccos := arccos
  pi := .fin Real.pi

end

/-! ### Finite values -/

def Finite (a : Ieee) : Prop := ∃ x : ℝ, a = .fin x

theorem finite_fin (x : ℝ) : Finite (.fin x) := ⟨x, rfl⟩

theorem not_finite_nan : ¬ Finite .nan := by
  rintro ⟨x, same⟩
  cases same

theorem not_finite_inf (s : Bool) : ¬ Finite (.inf s) := by
  rintro ⟨x, same⟩
  cases same

theorem isFinite_iff (a : Ieee) : Scalar.isFinite a = true ↔ a.Finite := by
  cases a with
  | nan =>
      constructor
      · intro finite
        cases finite
      · exact fun finite => absurd finite not_finite_nan
  | inf s =>
      constructor
      · intro finite
        cases finite
      · exact fun finite => absurd finite (not_finite_inf s)
  | fin x =>
      constructor
      · exact fun _ => finite_fin x
      · exact fun _ => rfl

@[simp] theorem zero_eq : (0 : Ieee) = .fin 0 := rfl
@[simp] theorem one_eq : (1 : Ieee) = .fin 1 := rfl
@[simp] theorem ofRat_eq (q : ℚ) : (Scalar.ofRat q : Ieee) = .fin q := rfl
@[simp] theorem fin_add (x y : ℝ) : (fin x + fin y : Ieee) = .fin (x + y) := rfl
@[simp] theorem fin_sub (x y : ℝ) : (fin x - fin y : Ieee) = .fin (x + -y) := rfl
@[simp] theorem fin_mul (x y : ℝ) : (fin x * fin y : Ieee) = .fin (x * y) := rfl
@[simp] theorem fin_neg (x : ℝ) : (-fin x : Ieee) = .fin (-x) := rfl
@[simp] theorem fin_lt (x y : ℝ) : (fin x : Ieee) < .fin y ↔ x < y := Iff.rfl
@[simp] theorem fin_le (x y : ℝ) : (fin x : Ieee) ≤ .fin y ↔ x ≤ y := Iff.rfl

theorem fin_div (x : ℝ) {y : ℝ} (nonzero : y ≠ 0) : (fin x / fin y : Ieee) = .fin (x / y) :=
  if_neg nonzero

theorem fin_sqrt {x : ℝ} (nonneg : 0 ≤ x) : Scalar.sqrt (fin x) = .fin (Real.sqrt x) :=
  if_neg (not_lt.mpr nonneg)

theorem fin_arccos {x : ℝ} (lower : -1 ≤ x) (upper : x ≤ 1) :
    Scalar.arccos (fin x) = .fin (Real.arccos x) :=
  if_pos ⟨lower, upper⟩

theorem ofNat_eq (n : Nat) : (Scalar.ofNat n : Ieee) = .fin n := by
  rw [Scalar.ofNat, ofRat_eq, Rat.cast_natCast]

@[simp] theorem fin_greater (x y : ℝ) :
    Scalar.greater (fin x) (fin y) = .fin (Scalar.greater x y) := by
  unfold Scalar.greater
  by_cases less : x < y
  · rw [if_pos ((fin_lt x y).mpr less), if_pos less]
  · rw [if_neg fun less' => less ((fin_lt x y).mp less'), if_neg less]

@[simp] theorem fin_lesser (x y : ℝ) :
    Scalar.lesser (fin x) (fin y) = .fin (Scalar.lesser x y) := by
  unfold Scalar.lesser
  by_cases less : y < x
  · rw [if_pos ((fin_lt y x).mpr less), if_pos less]
  · rw [if_neg fun less' => less ((fin_lt y x).mp less'), if_neg less]

@[simp] theorem fin_abs (x : ℝ) : Scalar.abs (fin x) = .fin (Scalar.abs x) := by
  unfold Scalar.abs
  rw [zero_eq]
  by_cases negative : x < 0
  · rw [if_pos ((fin_lt x 0).mpr negative), if_pos negative]
    rfl
  · rw [if_neg fun negative' => negative ((fin_lt x 0).mp negative'), if_neg negative]

section Closure

variable {a b : Ieee}

theorem Finite.add (left : a.Finite) (right : b.Finite) : (a + b).Finite := by
  obtain ⟨x, rfl⟩ := left
  obtain ⟨y, rfl⟩ := right
  exact finite_fin _

theorem Finite.sub (left : a.Finite) (right : b.Finite) : (a - b).Finite := by
  obtain ⟨x, rfl⟩ := left
  obtain ⟨y, rfl⟩ := right
  exact finite_fin _

theorem Finite.mul (left : a.Finite) (right : b.Finite) : (a * b).Finite := by
  obtain ⟨x, rfl⟩ := left
  obtain ⟨y, rfl⟩ := right
  exact finite_fin _

theorem Finite.neg (finite : a.Finite) : (-a).Finite := by
  obtain ⟨x, rfl⟩ := finite
  exact finite_fin _

theorem Finite.div (left : a.Finite) {y : ℝ} (nonzero : y ≠ 0) : (a / fin y).Finite := by
  obtain ⟨x, rfl⟩ := left
  rw [fin_div x nonzero]
  exact finite_fin _

theorem Finite.sin (finite : a.Finite) : (Scalar.sin a).Finite := by
  obtain ⟨x, rfl⟩ := finite
  exact finite_fin _

theorem Finite.sign (a : Ieee) : (Scalar.sign a).Finite := by
  unfold Scalar.sign
  split
  · exact finite_fin _
  · split
    · exact finite_fin _
    · exact finite_fin _

end Closure

/-! ### Not-a-number -/

section Taint

variable (a : Ieee)

@[simp] theorem nan_add : (nan + a : Ieee) = nan := by
  cases a with
  | nan => rfl
  | inf s => rfl
  | fin x => rfl

@[simp] theorem add_nan : (a + nan : Ieee) = nan := by
  cases a with
  | nan => rfl
  | inf s => rfl
  | fin x => rfl

@[simp] theorem nan_sub : (nan - a : Ieee) = nan := nan_add (neg a)

@[simp] theorem nan_mul : (nan * a : Ieee) = nan := by
  cases a with
  | nan => rfl
  | inf s => rfl
  | fin x => rfl

@[simp] theorem mul_nan : (a * nan : Ieee) = nan := by
  cases a with
  | nan => rfl
  | inf s => rfl
  | fin x => rfl

@[simp] theorem nan_div : (nan / a : Ieee) = nan := by
  cases a with
  | nan => rfl
  | inf s => rfl
  | fin x => rfl

@[simp] theorem div_nan : (a / nan : Ieee) = nan := by
  cases a with
  | nan => rfl
  | inf s => rfl
  | fin x => rfl

@[simp] theorem sqrt_nan : (Scalar.sqrt nan : Ieee) = nan := rfl

theorem not_nan_lt : ¬ (nan : Ieee) < a := by
  intro less
  cases a with
  | nan => exact less
  | inf s => exact less
  | fin x => exact less

theorem not_lt_nan : ¬ a < (nan : Ieee) := by
  intro less
  cases a with
  | nan => exact less
  | inf s => exact less
  | fin x => exact less

@[simp] theorem abs_nan : (Scalar.abs nan : Ieee) = nan := if_neg (not_nan_lt 0)

end Taint

/-! ### The smaller of two numbers -/

theorem ne_nan_of_pos {a : Ieee} (positive : 0 < a) : a ≠ nan := by
  intro same
  subst same
  exact not_lt_nan 0 positive

theorem not_pos_of_le_zero {a : Ieee} (below : a ≤ 0) : ¬ 0 < a := by
  cases a with
  | nan => exact not_lt_nan 0
  | inf s =>
      have negative : s = true := below
      subst negative
      exact fun impossible => by cases impossible
  | fin x =>
      have below : x ≤ 0 := below
      exact fun positive => absurd below (not_le.mpr positive)

/-- Above zero the order is transitive. -/
theorem pos_of_lt {a b : Ieee} (positive : 0 < a) (less : a < b) : 0 < b := by
  cases a with
  | nan => exact absurd positive (not_lt_nan 0)
  | inf s =>
      have above : s = false := positive
      subst above
      cases b with
      | nan => exact less
      | inf t => exact less.2
      | fin y => cases less
  | fin x =>
      have positive : 0 < x := positive
      cases b with
      | nan => exact less
      | inf t => exact less
      | fin y =>
          have less : x < y := less
          exact positive.trans less

theorem lesser_swap {a b : Ieee} (left : a ≠ nan) (right : b ≠ nan) :
    Scalar.lesser a b = Scalar.lesser b a := by
  cases a with
  | nan => exact absurd rfl left
  | inf s =>
      cases b with
      | nan => exact absurd rfl right
      | inf t =>
          cases s with
          | true =>
              cases t with
              | true => rfl
              | false => exact (if_neg fun both => by cases both.1).trans (if_pos ⟨rfl, rfl⟩).symm
          | false =>
              cases t with
              | true => exact (if_pos ⟨rfl, rfl⟩).trans (if_neg fun both => by cases both.1).symm
              | false => rfl
      | fin y =>
          cases s with
          | true => exact (if_neg fun same => by cases same).trans (if_pos rfl).symm
          | false => exact (if_pos rfl).trans (if_neg fun same => by cases same).symm
  | fin x =>
      cases b with
      | nan => exact absurd rfl right
      | inf t =>
          cases t with
          | true => exact (if_pos rfl).trans (if_neg fun same => by cases same).symm
          | false => exact (if_neg fun same => by cases same).trans (if_pos rfl).symm
      | fin y => rw [fin_lesser, fin_lesser, Scalar.lesser_real, Scalar.lesser_real, min_comm]

theorem isFinite_of_pos {a : Ieee} (positive : 0 < a) (bounded : a ≠ inf false) :
    Scalar.isFinite a = true := by
  cases a with
  | nan => exact absurd rfl (ne_nan_of_pos positive)
  | inf s =>
      have above : s = false := positive
      subst above
      exact absurd rfl bounded
  | fin x => rfl

theorem not_nan_le (a : Ieee) : ¬ (nan : Ieee) ≤ a := by
  cases a <;> exact id

theorem not_le_nan (a : Ieee) : ¬ a ≤ (nan : Ieee) := by
  cases a <;> exact id

theorem number_of_le {a b : Ieee} (below : a ≤ b) : a ≠ nan ∧ b ≠ nan := by
  constructor
  · intro same
    subst same
    exact not_nan_le b below
  · intro same
    subst same
    exact not_le_nan a below

theorem le_highest {a : Ieee} (number : a ≠ nan) : a ≤ inf false := by
  cases a with
  | nan => exact absurd rfl number
  | inf s => exact Or.inr rfl
  | fin x => rfl

theorem lowest_le {a : Ieee} (number : a ≠ nan) : inf true ≤ a := by
  cases a with
  | nan => exact absurd rfl number
  | inf s => exact Or.inl rfl
  | fin x => rfl

theorem highest_of_le {a : Ieee} (above : inf false ≤ a) : a = inf false := by
  cases a with
  | nan => exact absurd above (not_le_nan _)
  | inf s =>
      rcases above with impossible | same
      · cases impossible
      · rw [same]
  | fin x => cases above

theorem lowest_of_le {a : Ieee} (below : a ≤ inf true) : a = inf true := by
  cases a with
  | nan => exact absurd below (not_nan_le _)
  | inf s =>
      rcases below with same | impossible
      · rw [same]
      · cases impossible
  | fin x => cases below

theorem le_of_not_above {a b : Ieee} (left : a ≠ nan) (right : b ≠ nan) (above : ¬ b < a) :
    a ≤ b := by
  cases a with
  | nan => exact absurd rfl left
  | inf s =>
      cases b with
      | nan => exact absurd rfl right
      | inf t =>
          cases s with
          | true => exact Or.inl rfl
          | false =>
              cases t with
              | true => exact absurd ⟨rfl, rfl⟩ above
              | false => exact Or.inr rfl
      | fin y =>
          cases s with
          | true => rfl
          | false => exact absurd rfl above
  | fin x =>
      cases b with
      | nan => exact absurd rfl right
      | inf t =>
          cases t with
          | true => exact absurd rfl above
          | false => rfl
      | fin y =>
          have above : ¬ y < x := above
          exact not_lt.mp above

theorem le_of_below {a b : Ieee} (less : a < b) : a ≤ b := by
  cases a with
  | nan => exact absurd less (not_nan_lt b)
  | inf s =>
      cases b with
      | nan => exact less
      | inf t => exact Or.inl less.1
      | fin y => exact less
  | fin x =>
      cases b with
      | nan => exact less
      | inf t => exact less
      | fin y =>
          have less : x < y := less
          exact less.le

theorem le_self {a : Ieee} (number : a ≠ nan) : a ≤ a := by
  cases a with
  | nan => exact absurd rfl number
  | inf s =>
      cases s with
      | true => exact Or.inl rfl
      | false => exact Or.inr rfl
  | fin x => exact le_refl x

theorem le_chain {a b c : Ieee} (first : a ≤ b) (second : b ≤ c) : a ≤ c := by
  cases b with
  | nan => exact absurd first (not_le_nan a)
  | inf t =>
      cases t with
      | true =>
          rw [lowest_of_le first]
          exact second
      | false =>
          rw [highest_of_le second]
          exact le_highest (number_of_le first).1
  | fin y =>
      cases a with
      | nan => exact absurd first (not_nan_le _)
      | inf s =>
          have lowest : s = true := first
          rw [lowest]
          exact lowest_le (number_of_le second).2
      | fin x =>
          cases c with
          | nan => exact absurd second (not_le_nan _)
          | inf t => exact second
          | fin z =>
              have first : x ≤ y := first
              have second : y ≤ z := second
              exact first.trans second

theorem abs_ne_nan {a : Ieee} (number : a ≠ nan) : Scalar.abs a ≠ nan := by
  unfold Scalar.abs
  cases a with
  | nan => exact absurd rfl number
  | inf s =>
      split
      · exact fun impossible => by cases impossible
      · exact fun impossible => by cases impossible
  | fin x =>
      split
      · exact fun impossible => by cases impossible
      · exact fun impossible => by cases impossible

theorem zero_le_abs {a : Ieee} (number : a ≠ nan) : 0 ≤ Scalar.abs a := by
  cases a with
  | nan => exact absurd rfl number
  | inf s =>
      cases s with
      | true =>
          have flipped : Scalar.abs (inf true) = inf false := if_pos rfl
          rw [flipped]
          rfl
      | false =>
          have kept : Scalar.abs (inf false) = inf false := if_neg fun impossible => by
            cases impossible
          rw [kept]
          rfl
  | fin x =>
      rw [fin_abs, Scalar.abs_real]
      exact abs_nonneg x

theorem number_fin (x : ℝ) : fin x ≠ nan := by
  intro impossible
  cases impossible

theorem minimum_nan (a : Ieee) : Scalar.minimum a nan = nan := by
  cases a <;> rfl

open Classical in
theorem minimum_of_numbers {a b : Ieee} (left : a ≠ nan) (right : b ≠ nan) :
    Scalar.minimum a b = if a ≤ b then a else b := by
  cases a with
  | nan => exact absurd rfl left
  | inf s =>
      cases b with
      | nan => exact absurd rfl right
      | _ => rfl
  | fin x =>
      cases b with
      | nan => exact absurd rfl right
      | _ => rfl

theorem minimum_eq_left {a b : Ieee} (below : a ≤ b) : Scalar.minimum a b = a := by
  obtain ⟨left, right⟩ := number_of_le below
  rw [minimum_of_numbers left right, if_pos below]

theorem minimum_ne_nan {a b : Ieee} (left : a ≠ nan) (right : b ≠ nan) :
    Scalar.minimum a b ≠ nan := by
  rw [minimum_of_numbers left right]
  split
  · exact left
  · exact right

/-- A smaller one that is a number is at most either, and both are numbers. -/
theorem minimum_number {a b : Ieee} (number : Scalar.minimum a b ≠ nan) :
    a ≠ nan ∧ b ≠ nan ∧ Scalar.minimum a b ≤ a ∧ Scalar.minimum a b ≤ b := by
  have left : a ≠ nan := by
    intro same
    subst same
    exact number rfl
  have right : b ≠ nan := by
    intro same
    subst same
    exact number (minimum_nan a)
  refine ⟨left, right, ?_⟩
  by_cases below : a ≤ b
  · rw [minimum_eq_left below]
    exact ⟨le_self left, below⟩
  · rw [minimum_of_numbers left right, if_neg below]
    exact ⟨le_of_not_above right left fun less => below (le_of_below less), le_self right⟩

theorem add_le_add_of_number {p a b : Ieee} (raised : p ≠ inf true) (number : p + a ≠ nan)
    (larger : a ≤ b) : p + a ≤ p + b := by
  have right : b ≠ nan := (number_of_le larger).2
  cases p with
  | nan => exact absurd (nan_add a) number
  | inf s =>
      cases s with
      | true => exact absurd rfl raised
      | false =>
          cases b with
          | nan => exact absurd rfl right
          | inf u =>
              cases u with
              | true =>
                  rw [lowest_of_le larger] at number
                  exact absurd rfl number
              | false => exact le_highest number
          | fin z => exact le_highest number
  | fin q =>
      cases b with
      | nan => exact absurd rfl right
      | inf u =>
          cases u with
          | true =>
              rw [lowest_of_le larger] at number ⊢
              exact le_self number
          | false => exact le_highest number
      | fin z =>
          cases a with
          | nan => exact absurd (add_nan _) number
          | inf s =>
              have lowest : s = true := larger
              rw [lowest]
              rfl
          | fin y =>
              have larger : y ≤ z := larger
              change q + y ≤ q + z
              linarith

/-- What is at most one number above another is at most a larger one above it. -/
theorem le_add_of_le {x p a b : Ieee} (nonneg : 0 ≤ x) (within : x ≤ p + a) (larger : a ≤ b) :
    x ≤ p + b := by
  have number : p + a ≠ nan := (number_of_le within).2
  refine le_chain within (add_le_add_of_number ?_ number larger)
  intro same
  subst same
  have lowest : inf true + a = inf true := by
    cases a with
    | nan => exact absurd rfl number
    | inf t =>
        cases t with
        | true => rfl
        | false => exact absurd rfl number
    | fin y => rfl
  rw [lowest] at within
  have impossible : (0 : Ieee) = inf true := lowest_of_le (le_chain nonneg within)
  cases impossible

theorem add_fin_zero (a : Ieee) : a + fin 0 = a := by
  cases a with
  | nan => rfl
  | inf s => rfl
  | fin x => rw [fin_add, add_zero]

@[simp] theorem fin_maximum (x y : ℝ) : Scalar.maximum (fin x) (fin y) = .fin (max x y) := by
  change (open Classical in if y ≤ x then fin x else fin y) = _
  by_cases above : y ≤ x
  · rw [if_pos above, max_eq_left above]
  · rw [if_neg above, max_eq_right (not_le.mp above).le]

@[simp] theorem fin_minimum (x y : ℝ) : Scalar.minimum (fin x) (fin y) = .fin (min x y) := by
  change (open Classical in if x ≤ y then fin x else fin y) = _
  by_cases below : x ≤ y
  · rw [if_pos below, min_eq_left below]
  · rw [if_neg below, min_eq_right (not_le.mp below).le]

/-- Clipped between finite bounds, anything but not-a-number is finite. -/
theorem clip_finite {a : Ieee} (number : a ≠ nan) (lower upper : ℝ) :
    (Scalar.clip a (.fin lower) (.fin upper)).Finite := by
  unfold Scalar.clip
  cases a with
  | nan => exact absurd rfl number
  | fin x =>
      rw [fin_maximum, fin_minimum]
      exact finite_fin _
  | inf s =>
      cases s with
      | true =>
          have below : ¬ true = false := by decide
          have raised : Scalar.maximum (inf true) (fin lower) = .fin lower := if_neg below
          rw [raised, fin_minimum]
          exact finite_fin _
      | false =>
          have raised : Scalar.maximum (inf false) (fin lower) = .inf false := if_pos rfl
          have lowered : Scalar.minimum (inf false) (fin upper) = .fin upper :=
            if_neg Bool.false_ne_true
          rw [raised, lowered]
          exact finite_fin _

theorem finite_of_close {a b : Ieee} (finite : a.Finite) (near : Scalar.close a b = true) :
    b.Finite := by
  obtain ⟨x, rfl⟩ := finite
  unfold Scalar.close at near
  rw [Bool.or_eq_true, Bool.and_eq_true, Bool.and_eq_true, decide_eq_true_iff, decide_eq_true_iff,
    decide_eq_true_iff, isFinite_iff] at near
  rcases near with ⟨_, finite⟩ | ⟨below, above⟩
  · exact finite
  · cases b with
    | nan => exact absurd below id
    | inf s =>
        have positive : s = false := below
        have negative : s = true := above
        rw [positive] at negative
        cases negative
    | fin y => exact finite_fin y

/-! ### Squares -/

/-- The values a length computed from something not finite can have. -/
def Blown (a : Ieee) : Prop := a = nan ∨ a = inf false

theorem blown_square {a : Ieee} (infinite : ¬ a.Finite) : Blown (a * a) := by
  cases a with
  | nan => exact Or.inl rfl
  | inf s =>
      right
      change inf (s != s) = inf false
      rw [bne_self_eq_false]
  | fin x => exact absurd (finite_fin x) infinite

theorem square_ne_negative (a : Ieee) : a * a ≠ inf true := by
  cases a with
  | nan => exact fun same => by cases same
  | inf s =>
      change inf (s != s) ≠ inf true
      rw [bne_self_eq_false]
      exact fun same => by cases same
  | fin x => exact fun same => by cases same

theorem Blown.add_right {a b : Ieee} (blown : Blown a) (bounded : b ≠ inf true) :
    Blown (a + b) := by
  rcases blown with rfl | rfl
  · exact Or.inl (nan_add b)
  · cases b with
    | nan => exact Or.inl rfl
    | inf s =>
        cases s with
        | true => exact absurd rfl bounded
        | false => exact Or.inr rfl
    | fin x => exact Or.inr rfl

theorem add_swap (a b : Ieee) : a + b = b + a := by
  cases a with
  | nan => rw [nan_add, add_nan]
  | inf s =>
      cases b with
      | nan => rfl
      | inf t =>
          cases s with
          | true =>
              cases t with
              | true => rfl
              | false => rfl
          | false =>
              cases t with
              | true => rfl
              | false => rfl
      | fin y => rfl
  | fin x =>
      cases b with
      | nan => rfl
      | inf t => rfl
      | fin y => rw [fin_add, fin_add, add_comm]

theorem Blown.add_left {a b : Ieee} (blown : Blown b) (bounded : a ≠ inf true) : Blown (a + b) := by
  rw [add_swap]
  exact blown.add_right bounded

theorem add_ne_negative {a b : Ieee} (left : a ≠ inf true) (right : b ≠ inf true) :
    a + b ≠ inf true := by
  cases a with
  | nan =>
      rw [nan_add]
      exact fun same => by cases same
  | inf s =>
      cases s with
      | true => exact absurd rfl left
      | false =>
          have blown : Blown (inf false) := Or.inr rfl
          rcases blown.add_right right with same | same
          · rw [same]
            exact fun same => by cases same
          · rw [same]
            exact fun same => by cases same
  | fin x =>
      cases b with
      | nan => exact fun same => by cases same
      | inf t => exact right
      | fin y => exact fun same => by cases same

theorem Blown.sqrt {a : Ieee} (blown : Blown a) : Blown (Scalar.sqrt a) := by
  rcases blown with rfl | rfl
  · exact Or.inl rfl
  · exact Or.inr rfl

theorem Blown.not_lt_fin {a : Ieee} (blown : Blown a) (x : ℝ) : ¬ a < fin x := by
  rcases blown with rfl | rfl
  · exact not_nan_lt _
  · exact Bool.false_ne_true

/-- Divided by such a length, what is not finite has no value. -/
theorem Blown.div {a n : Ieee} (blown : Blown n) (infinite : ¬ a.Finite) : a / n = nan := by
  rcases blown with rfl | rfl
  · exact div_nan a
  · cases a with
    | nan => rfl
    | inf s => rfl
    | fin x => exact absurd (finite_fin x) infinite

end Ieee

namespace Vec3

open Ieee

def Finite (v : Vec3 Ieee) : Prop := v.x.Finite ∧ v.y.Finite ∧ v.z.Finite

/-- Some coordinate is not a number. -/
def Tainted (v : Vec3 Ieee) : Prop := v.x = nan ∨ v.y = nan ∨ v.z = nan

variable {v w : Vec3 Ieee}

theorem finite_zero : (0 : Vec3 Ieee).Finite := ⟨finite_fin 0, finite_fin 0, finite_fin 0⟩

theorem Finite.add (left : v.Finite) (right : w.Finite) : (v + w).Finite :=
  ⟨left.1.add right.1, left.2.1.add right.2.1, left.2.2.add right.2.2⟩

theorem Finite.sub (left : v.Finite) (right : w.Finite) : (v - w).Finite :=
  ⟨left.1.sub right.1, left.2.1.sub right.2.1, left.2.2.sub right.2.2⟩

theorem Finite.mul (finite : v.Finite) {s : Ieee} (scale : s.Finite) : (v * s).Finite :=
  ⟨finite.1.mul scale, finite.2.1.mul scale, finite.2.2.mul scale⟩

theorem Finite.div (finite : v.Finite) {s : ℝ} (nonzero : s ≠ 0) : (v / fin s).Finite :=
  ⟨finite.1.div nonzero, finite.2.1.div nonzero, finite.2.2.div nonzero⟩

theorem Finite.norm (finite : v.Finite) : v.norm.Finite := by
  obtain ⟨⟨x, atX⟩, ⟨y, atY⟩, ⟨z, atZ⟩⟩ := finite
  have nonneg : 0 ≤ x * x + y * y + z * z :=
    add_nonneg (add_nonneg (mul_self_nonneg x) (mul_self_nonneg y)) (mul_self_nonneg z)
  rw [Vec3.norm, atX, atY, atZ, fin_mul, fin_mul, fin_mul, fin_add, fin_add, fin_sqrt nonneg]
  exact finite_fin _

theorem Tainted.sub (tainted : v.Tainted) (w : Vec3 Ieee) : (v - w).Tainted := by
  rcases tainted with x | y | z
  · exact Or.inl ((congrArg (· - w.x) x).trans (nan_sub _))
  · exact Or.inr (Or.inl ((congrArg (· - w.y) y).trans (nan_sub _)))
  · exact Or.inr (Or.inr ((congrArg (· - w.z) z).trans (nan_sub _)))

theorem Tainted.div (tainted : v.Tainted) (s : Ieee) : (v / s).Tainted := by
  rcases tainted with x | y | z
  · exact Or.inl ((congrArg (· / s) x).trans (nan_div _))
  · exact Or.inr (Or.inl ((congrArg (· / s) y).trans (nan_div _)))
  · exact Or.inr (Or.inr ((congrArg (· / s) z).trans (nan_div _)))

theorem Tainted.norm (tainted : v.Tainted) : v.norm = nan := by
  unfold Vec3.norm
  rcases tainted with x | y | z
  · rw [x, nan_mul, nan_add, nan_add, sqrt_nan]
  · rw [y, nan_mul, add_nan, nan_add, sqrt_nan]
  · rw [z, nan_mul, add_nan, sqrt_nan]

theorem Tainted.not_finite (tainted : v.Tainted) : ¬ v.Finite := by
  rintro ⟨x, y, z⟩
  rcases tainted with atX | atY | atZ
  · exact not_finite_nan (atX ▸ x)
  · exact not_finite_nan (atY ▸ y)
  · exact not_finite_nan (atZ ▸ z)

end Vec3

namespace Quat

open Ieee

def Finite (q : Quat Ieee) : Prop := q.w.Finite ∧ q.x.Finite ∧ q.y.Finite ∧ q.z.Finite

/-- Some component is not a number. -/
def Tainted (q : Quat Ieee) : Prop := q.w = nan ∨ q.x = nan ∨ q.y = nan ∨ q.z = nan

variable {q r : Quat Ieee}

theorem Finite.add (left : q.Finite) (right : r.Finite) : (q + r).Finite :=
  ⟨left.1.add right.1, left.2.1.add right.2.1, left.2.2.1.add right.2.2.1,
    left.2.2.2.add right.2.2.2⟩

theorem Finite.sub (left : q.Finite) (right : r.Finite) : (q - r).Finite :=
  ⟨left.1.sub right.1, left.2.1.sub right.2.1, left.2.2.1.sub right.2.2.1,
    left.2.2.2.sub right.2.2.2⟩

theorem Finite.neg (finite : q.Finite) : (-q).Finite :=
  ⟨finite.1.neg, finite.2.1.neg, finite.2.2.1.neg, finite.2.2.2.neg⟩

theorem Finite.mul (finite : q.Finite) {s : Ieee} (scale : s.Finite) : (s * q).Finite :=
  ⟨scale.mul finite.1, scale.mul finite.2.1, scale.mul finite.2.2.1, scale.mul finite.2.2.2⟩

theorem Finite.div (finite : q.Finite) {s : ℝ} (nonzero : s ≠ 0) : (q / fin s).Finite :=
  ⟨finite.1.div nonzero, finite.2.1.div nonzero, finite.2.2.1.div nonzero,
    finite.2.2.2.div nonzero⟩

theorem Finite.dot (left : q.Finite) (right : r.Finite) : (q.dot r).Finite :=
  (((left.1.mul right.1).add (left.2.1.mul right.2.1)).add
    (left.2.2.1.mul right.2.2.1)).add (left.2.2.2.mul right.2.2.2)

theorem Finite.norm (finite : q.Finite) : q.norm.Finite := by
  obtain ⟨⟨w, atW⟩, ⟨x, atX⟩, ⟨y, atY⟩, ⟨z, atZ⟩⟩ := finite
  have nonneg : 0 ≤ w * w + x * x + y * y + z * z :=
    add_nonneg (add_nonneg (add_nonneg (mul_self_nonneg w) (mul_self_nonneg x))
      (mul_self_nonneg y)) (mul_self_nonneg z)
  rw [Quat.norm, Quat.dot, atW, atX, atY, atZ, fin_mul, fin_mul, fin_mul, fin_mul, fin_add,
    fin_add, fin_add, fin_sqrt nonneg]
  exact finite_fin _

theorem infinite_component (infinite : ¬ q.Finite) :
    ¬ q.w.Finite ∨ ¬ q.x.Finite ∨ ¬ q.y.Finite ∨ ¬ q.z.Finite := by
  rw [← not_and_or, ← not_and_or, ← not_and_or]
  exact infinite

theorem blown_norm (infinite : ¬ q.Finite) : Blown q.norm := by
  unfold Quat.norm Quat.dot
  have w := square_ne_negative q.w
  have x := square_ne_negative q.x
  have y := square_ne_negative q.y
  have z := square_ne_negative q.z
  apply Blown.sqrt
  rcases infinite_component infinite with atW | atX | atY | atZ
  · exact (((blown_square atW).add_right x).add_right y).add_right z
  · exact (((blown_square atX).add_left w).add_right y).add_right z
  · exact ((blown_square atY).add_left (add_ne_negative w x)).add_right z
  · exact (blown_square atZ).add_left (add_ne_negative (add_ne_negative w x) y)

theorem Tainted.neg (tainted : q.Tainted) : (-q).Tainted := by
  rcases tainted with w | x | y | z
  · exact Or.inl (congrArg (-·) w)
  · exact Or.inr (Or.inl (congrArg (-·) x))
  · exact Or.inr (Or.inr (Or.inl (congrArg (-·) y)))
  · exact Or.inr (Or.inr (Or.inr (congrArg (-·) z)))

theorem Tainted.mul (tainted : q.Tainted) (s : Ieee) : (s * q).Tainted := by
  rcases tainted with w | x | y | z
  · exact Or.inl ((congrArg (s * ·) w).trans (mul_nan s))
  · exact Or.inr (Or.inl ((congrArg (s * ·) x).trans (mul_nan s)))
  · exact Or.inr (Or.inr (Or.inl ((congrArg (s * ·) y).trans (mul_nan s))))
  · exact Or.inr (Or.inr (Or.inr ((congrArg (s * ·) z).trans (mul_nan s))))

theorem Tainted.add (tainted : r.Tainted) (q : Quat Ieee) : (q + r).Tainted := by
  rcases tainted with w | x | y | z
  · exact Or.inl ((congrArg (q.w + ·) w).trans (add_nan _))
  · exact Or.inr (Or.inl ((congrArg (q.x + ·) x).trans (add_nan _)))
  · exact Or.inr (Or.inr (Or.inl ((congrArg (q.y + ·) y).trans (add_nan _))))
  · exact Or.inr (Or.inr (Or.inr ((congrArg (q.z + ·) z).trans (add_nan _))))

theorem Tainted.add_left (tainted : q.Tainted) (r : Quat Ieee) : (q + r).Tainted := by
  rcases tainted with w | x | y | z
  · exact Or.inl ((congrArg (· + r.w) w).trans (nan_add _))
  · exact Or.inr (Or.inl ((congrArg (· + r.x) x).trans (nan_add _)))
  · exact Or.inr (Or.inr (Or.inl ((congrArg (· + r.y) y).trans (nan_add _))))
  · exact Or.inr (Or.inr (Or.inr ((congrArg (· + r.z) z).trans (nan_add _))))

theorem Tainted.dot_left (tainted : q.Tainted) (r : Quat Ieee) : q.dot r = nan := by
  unfold Quat.dot
  rcases tainted with w | x | y | z
  · rw [w, nan_mul, nan_add, nan_add, nan_add]
  · rw [x, nan_mul, add_nan, nan_add, nan_add]
  · rw [y, nan_mul, add_nan, nan_add]
  · rw [z, nan_mul, add_nan]

theorem Tainted.dot (tainted : r.Tainted) (q : Quat Ieee) : q.dot r = nan := by
  unfold Quat.dot
  rcases tainted with w | x | y | z
  · rw [w, mul_nan, nan_add, nan_add, nan_add]
  · rw [x, mul_nan, add_nan, nan_add, nan_add]
  · rw [y, mul_nan, add_nan, nan_add]
  · rw [z, mul_nan, add_nan]

theorem Tainted.not_finite (tainted : q.Tainted) : ¬ q.Finite := by
  rintro ⟨w, x, y, z⟩
  rcases tainted with atW | atX | atY | atZ
  · exact not_finite_nan (atW ▸ w)
  · exact not_finite_nan (atX ▸ x)
  · exact not_finite_nan (atY ▸ y)
  · exact not_finite_nan (atZ ▸ z)

/-- Divided by its length, a quaternion that is not finite keeps no number where it was not. -/
theorem tainted_div_norm (infinite : ¬ q.Finite) : (q / q.norm).Tainted := by
  have blown := blown_norm infinite
  rcases infinite_component infinite with atW | atX | atY | atZ
  · exact Or.inl (blown.div atW)
  · exact Or.inr (Or.inl (blown.div atX))
  · exact Or.inr (Or.inr (Or.inl (blown.div atY)))
  · exact Or.inr (Or.inr (Or.inr (blown.div atZ)))

end Quat
