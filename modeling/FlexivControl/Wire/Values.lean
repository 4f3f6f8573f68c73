/-
Values of the wire as the language reads them: fields, numbers, truth values, and the
arrays of the array library.

What a text is worth as a number, and how a value is printed, is the language's own and
stands in `Language`. A record's field that the source takes as it comes must be of the
record's type here; anything else is `untyped`.
-/

import FlexivControl.Library.NdArray
import FlexivControl.Wire.Connection

namespace FlexivControl

structure Language (K : Type) where
  parseFloat : String → Option K
  parseInt : String → Option Int
  parseFlag : String → Option Bool
  notANumber : K
  print : Json K → String
  repr : Json K → String
  lower : String → String
  lower_clip : lower "clip" = "clip"
  lower_reject : lower "reject" = "reject"

variable {K : Type}

def typeError (message : String) : Exc := ⟨.other "TypeError", message⟩

def attributeError (d : Json K) (name : String) : Exc :=
  ⟨.other "AttributeError", "'" ++ typeName d ++ "' object has no attribute '" ++ name ++ "'"⟩

def untyped (expected : String) (value : Json K) : Exc :=
  ⟨.other "untyped", typeName value ++ " where the record has " ++ expected⟩

def item (d : Json K) (name : String) : Except Exc (Json K) :=
  match d with
  | .obj fields =>
      match Json.field? fields name with
      | some value => .ok value
      | none => .error ⟨.other "KeyError", "'" ++ name ++ "'"⟩
  | .arr _ => .error (typeError "list indices must be integers or slices, not str")
  | .str _ => .error (typeError "string indices must be integers, not 'str'")
  | other => .error (typeError ("'" ++ typeName other ++ "' object is not subscriptable"))

def getOr (d : Json K) (name : String) (default : Json K) : Except Exc (Json K) :=
  match d with
  | .obj fields => .ok ((Json.field? fields name).getD default)
  | other => .error (attributeError other "get")

def letters (text : String) : List (Json K) :=
  text.toList.map fun c => .str (String.singleton c)

def iterate : Json K → Except Exc (List (Json K))
  | .arr items => .ok items
  | .obj fields => .ok (fields.map fun field => .str field.1)
  | .str text => .ok (letters text)
  | other => .error (typeError ("'" ++ typeName other ++ "' object is not iterable"))

section Conversion

variable [Scalar K] (lang : Language K)

/-- `float(value)`; `kind` is what the message calls the conversion. -/
def toFloat : Json K → Except Exc K
  | .num x => .ok x
  | .int n => .ok (Scalar.ofInt n)
  | .bool b => .ok (if b then 1 else 0)
  | .str text =>
      match lang.parseFloat text with
      | some x => .ok x
      | none => .error ⟨.valueError,
          "could not convert string to float: " ++ lang.repr (.str text)⟩
  | other => .error (typeError ("float() argument must be a string or a real number, not '" ++
      typeName other ++ "'"))

def truncated (x : K) : Int :=
  if x < 0 then Scalar.ceil x else -Scalar.ceil (-x)

def toInt : Json K → Except Exc Int
  | .num x =>
      if Scalar.isFinite x then .ok (truncated x)
      else if x ≤ x then
        .error ⟨.other "OverflowError", "cannot convert float infinity to integer"⟩
      else .error ⟨.valueError, "cannot convert float NaN to integer"⟩
  | .int n => .ok n
  | .bool b => .ok (if b then 1 else 0)
  | .str text =>
      match lang.parseInt text with
      | some n => .ok n
      | none => .error ⟨.valueError,
          "invalid literal for int() with base 10: " ++ lang.repr (.str text)⟩
  | other => .error (typeError
      ("int() argument must be a string, a bytes-like object or a real number, not '" ++
        typeName other ++ "'"))

end Conversion

def toText (lang : Language K) : Json K → String
  | .str text => text
  | other => lang.print other

def optional {α : Type} (decode : Json K → Except Exc α) : Json K → Except Exc (Option α)
  | .null => .ok none
  | value => (decode value).map some

def encodeOptional {α : Type} (encode : α → Json K) : Option α → Json K
  | none => .null
  | some a => encode a

def asInt : Json K → Except Exc Int
  | .int n => .ok n
  | other => .error (untyped "an integer" other)

def asFloat [Scalar K] : Json K → Except Exc K
  | .num x => .ok x
  | .int n => .ok (Scalar.ofInt n)
  | other => .error (untyped "a number" other)

def asText : Json K → Except Exc String
  | .str text => .ok text
  | other => .error (untyped "a text" other)

def member {α : Type} (lang : Language K) (className : String) (members : List α)
    (value : α → String) (json : Json K) : Except Exc α :=
  let found := match json with
    | .str text => members.find? fun a => value a = text
    | _ => none
  match found with
  | some a => .ok a
  | none => .error ⟨.valueError, lang.repr json ++ " is not a valid " ++ className⟩

section Arrays

variable [Scalar K] (lang : Language K)

def raggedArray : Exc :=
  ⟨.valueError, "setting an array element with a sequence. The requested array has an " ++
    "inhomogeneous shape"⟩

def floatEntry : Json K → Except Exc K
  | .null => .ok lang.notANumber
  | other => toFloat lang other

def boolEntry : Json K → Except Exc Bool
  | .str text =>
      match lang.parseFlag text with
      | some b => .ok b
      | none => .error ⟨.valueError, "invalid literal for a truth value: " ++
          lang.repr (.str text)⟩
  | other => .ok other.truthy

/-- `np.asarray`: the shape is found first, then the entries are converted. -/
def asArray {α : Type} (entry : Json K → Except Exc α) (json : Json K) :
    Except Exc (NdArray α) := do
  let _ ← NdArray.read (fun leaf => .ok leaf) raggedArray json
  NdArray.read entry raggedArray json

def floatArray : Json K → Except Exc (NdArray K) := asArray (floatEntry lang)

def boolArray : Json K → Except Exc (NdArray Bool) := asArray (boolEntry lang)

def oneDimension {α : Type} (json : Json K) (a : NdArray α) : Except Exc (List α) :=
  match a.vector? with
  | some xs => .ok xs
  | none => .error (untyped "a vector" json)

def floatVector (json : Json K) : Except Exc (List K) := do
  oneDimension json (← floatArray lang json)

def boolVector (json : Json K) : Except Exc (List Bool) := do
  oneDimension json (← boolArray lang json)

end Arrays

def sixOf {α : Type} : List α → Option (Fin cartDof → α)
  | [a, b, c, d, e, f] => some ![a, b, c, d, e, f]
  | _ => none

def sixFrom {α : Type} (json : Json K) (xs : List α) : Except Exc (Fin cartDof → α) :=
  match sixOf xs with
  | some six => .ok six
  | none => .error (untyped "six entries" json)

theorem sixOf_finRange {α : Type} (six : Fin cartDof → α) :
    sixOf ((List.finRange cartDof).map six) = some six := by
  change some ![six 0, six 1, six 2, six 3, six 4, six 5] = some six
  congr 1
  funext axis
  fin_cases axis <;> rfl

theorem sixFrom_finRange {α : Type} (json : Json K) (six : Fin cartDof → α) :
    sixFrom json ((List.finRange cartDof).map six) = .ok six := by
  rw [sixFrom, sixOf_finRange]

def reshapeError (size : Nat) (shape : String) : Exc :=
  ⟨.valueError, "cannot reshape array of size " ++ toString size ++ " into shape " ++ shape⟩

def reshape6 (a : NdArray K) : Except Exc (Wrench K) :=
  match sixOf a.flat with
  | some six => .ok six
  | none => .error (reshapeError a.flat.length "(6,)")

def reshape3 (a : NdArray K) : Except Exc (Vec3 K) :=
  match a.flat with
  | [x, y, z] => .ok ⟨x, y, z⟩
  | entries => .error (reshapeError entries.length "(3,)")

def reshape4 (a : NdArray K) : Except Exc (Quat K) :=
  match a.flat with
  | [w, x, y, z] => .ok ⟨w, x, y, z⟩
  | entries => .error (reshapeError entries.length "(4,)")

/-- `array.tolist()`. -/
def floats (xs : List K) : Json K := .arr (xs.map .num)

def flags (bs : List Bool) : Json K := .arr (bs.map .bool)

@[simp] theorem getOr_obj (fields : List (String × Json K)) (name : String) (default : Json K) :
    getOr (.obj fields) name default = .ok ((Json.field? fields name).getD default) := rfl

@[simp] theorem item_cons_self (name : String) (value : Json K)
    (fields : List (String × Json K)) :
    item (.obj ((name, value) :: fields)) name = .ok value := by
  unfold item
  dsimp only
  rw [Json.field?_cons_self]

@[simp] theorem item_cons_of_ne {name other : String} (different : name ≠ other)
    (value : Json K) (fields : List (String × Json K)) :
    item (.obj ((other, value) :: fields)) name = item (.obj fields) name := by
  unfold item
  dsimp only
  rw [Json.field?_cons_of_ne different]

@[simp] theorem asText_str (text : String) : asText (.str text : Json K) = .ok text := rfl

@[simp] theorem except_bind_ok {ε α β : Type} (a : α) (next : α → Except ε β) :
    (Except.ok a >>= next) = next a := rfl

@[simp] theorem optional_null {α : Type} (decode : Json K → Except Exc α) :
    optional decode .null = .ok none := rfl

theorem optional_encode {α : Type} {decode : Json K → Except Exc α} {encode : α → Json K}
    (present : ∀ a, encode a ≠ .null) (back : ∀ a, decode (encode a) = .ok a) (o : Option α) :
    optional decode (encodeOptional encode o) = .ok o := by
  cases o with
  | none => rfl
  | some a =>
      have shape : optional decode (encode a) = (decode (encode a)).map some := by
        cases value : encode a with
        | null => exact absurd value (present a)
        | _ => rfl
      rw [encodeOptional, shape, back a]
      rfl

theorem member_value {α : Type} (lang : Language K) (className : String) (members : List α)
    (value : α → String) (a : α)
    (only : members.find? (fun b => value b = value a) = some a) :
    member lang className members value (.str (value a)) = .ok a := by
  unfold member
  dsimp only
  rw [only]

theorem asArray_toJson {α : Type} {entry : Json K → Except Exc α} {back : α → Json K}
    (atom : ∀ v items, back v ≠ .arr items) (again : ∀ v, entry (back v) = .ok v)
    {a : NdArray α} (shaped : a.WellShaped) : asArray entry (a.toJson back) = .ok a := by
  have entries : NdArray.read entry raggedArray (a.toJson back) = .ok a := by
    apply NdArray.read_toJson _ shaped
    intro v
    rw [NdArray.read_leaf (atom v), again]
    rfl
  have total : ∀ json value, entry json = .ok value →
      ∃ leaf : Json K, (Except.ok json : Except Exc (Json K)) = .ok leaf := by
    intro json _ _
    exact ⟨json, rfl⟩
  obtain ⟨leaves, shape, _⟩ := NdArray.read_again total entries
  unfold asArray
  rw [shape, except_bind_ok, entries]

theorem asArray_wellShaped {α : Type} {entry : Json K → Except Exc α} {json : Json K}
    {a : NdArray α} (ran : asArray entry json = .ok a) : a.WellShaped := by
  unfold asArray at ran
  cases shape : NdArray.read (fun leaf => Except.ok leaf) raggedArray json with
  | error e =>
      rw [shape] at ran
      cases ran
  | ok leaves =>
      rw [shape] at ran
      exact NdArray.read_wellShaped ran

@[simp] theorem optional_int (o : Option Int) :
    optional asInt (encodeOptional .int o : Json K) = .ok o := by
  cases o with
  | none => rfl
  | some n => rfl

section Reading

variable [Scalar K] (lang : Language K)

@[simp] theorem truthy_bool (b : Bool) : (Json.bool b : Json K).truthy = b := rfl

@[simp] theorem toFloat_num (x : K) : toFloat lang (.num x) = .ok x := rfl

@[simp] theorem toInt_int (n : Int) : toInt lang (.int n) = .ok n := rfl

@[simp] theorem optional_float (o : Option K) :
    optional asFloat (encodeOptional .num o) = .ok o := by
  cases o with
  | none => rfl
  | some x => rfl

theorem floatArray_toJson {a : NdArray K} (shaped : a.WellShaped) :
    floatArray lang (a.toJson .num) = .ok a := by
  apply asArray_toJson _ _ shaped
  · intro v items impossible
    cases impossible
  · intro v
    rfl

@[simp] theorem floatArray_floats (xs : List K) :
    floatArray lang (floats xs) = .ok (NdArray.vector xs) := by
  rw [floats, ← NdArray.toJson_vector]
  exact floatArray_toJson lang (NdArray.vector_wellShaped xs)

@[simp] theorem floatVector_floats (xs : List K) : floatVector lang (floats xs) = .ok xs := by
  rw [floatVector, floatArray_floats, except_bind_ok, oneDimension, NdArray.vector?_vector]

@[simp] theorem boolVector_flags (bs : List Bool) : boolVector lang (flags bs) = .ok bs := by
  have array : boolArray lang (flags bs) = .ok (NdArray.vector bs) := by
    rw [flags, ← NdArray.toJson_vector]
    apply asArray_toJson _ _ (NdArray.vector_wellShaped bs)
    · intro v items impossible
      cases impossible
    · intro v
      rfl
  rw [boolVector, array, except_bind_ok, oneDimension, NdArray.vector?_vector]

end Reading

end FlexivControl
