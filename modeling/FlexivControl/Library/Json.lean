/-
JSON values over a type of numbers.

Integers and other numbers are kept apart, as a reader of the text does. An object is
the list of its fields; the first of a name is the one that counts.
-/

import FlexivControl.Library.Scalar

inductive Json (K : Type) where
  | null
  | bool (value : Bool)
  | int (value : Int)
  | num (value : K)
  | str (value : String)
  | arr (items : List (Json K))
  | obj (fields : List (String × Json K))

namespace Json

variable {K : Type}

def field? (fields : List (String × Json K)) (name : String) : Option (Json K) :=
  fields.lookup name

@[simp] theorem field?_nil (name : String) :
    field? ([] : List (String × Json K)) name = none := rfl

@[simp] theorem field?_cons_self (name : String) (value : Json K)
    (fields : List (String × Json K)) : field? ((name, value) :: fields) name = some value := by
  rw [field?, List.lookup_cons, beq_self_eq_true]

@[simp] theorem field?_cons_of_ne {name other : String} (different : name ≠ other) (value : Json K)
    (fields : List (String × Json K)) :
    field? ((other, value) :: fields) name = field? fields name := by
  rw [field?, List.lookup_cons, beq_false_of_ne different]
  rfl

def isAtom : Json K → Bool
  | .arr _ | .obj _ => false
  | _ => true

/-- Lists by their entries, everything else as it is. -/
theorem list_induction {motive : Json K → Prop}
    (leaf : ∀ json, (∀ items, json ≠ .arr items) → motive json)
    (arr : ∀ items, (∀ item ∈ items, motive item) → motive (.arr items)) (json : Json K) :
    motive json := by
  generalize size : sizeOf json = n
  induction n using Nat.strong_induction_on generalizing json with
  | _ n ih =>
      cases json with
      | arr items =>
          apply arr
          intro item member
          have smaller := List.sizeOf_lt_of_mem member
          have inside : sizeOf (Json.arr items) = 1 + sizeOf items := Json.arr.sizeOf_spec items
          exact ih (sizeOf item) (by omega) item rfl
      | _ =>
          apply leaf
          intro items impossible
          cases impossible

/-- What counts as true where a truth value is wanted: all but null, false, zeros and
empty texts, arrays and objects. -/
def truthy [Scalar K] : Json K → Bool
  | .null => false
  | .bool value => value
  | .int value => value ≠ 0
  | .num value => !(decide (value ≤ 0) && decide (0 ≤ value))
  | .str value => value ≠ ""
  | .arr items => !items.isEmpty
  | .obj fields => !fields.isEmpty

end Json
