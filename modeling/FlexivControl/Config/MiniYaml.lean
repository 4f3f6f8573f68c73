/-
The parser of configurations that needs no library: a line is `key: value`, indentation
nests, and a value is a number, a truth value, an inline list or a text.

The open mappings stand on a stack with their indentation. Here such a mapping is its path
of keys from the root, and an assignment to it is one at that path. What `int` and `float`
read a text as is the language's.
-/

import FlexivControl.Library.Text
import FlexivControl.Wire.Values

namespace FlexivControl

open Text

variable {K : Type} (lang : Language K)

/-- `text.lower()` as far as it can be one of two plain words. -/
def lowered (v : List Char) : List Char := v.map Char.toLower

def unquoted (v : List Char) : List Char :=
  trim (fun c => c = '\'') (trim (fun c => c = '"') v)

def parsePlain (v : List Char) : Json K :=
  if lowered v = "true".toList ∨ lowered v = "false".toList then
    .bool (lowered v = "true".toList)
  else
    match lang.parseInt (String.ofList v) with
    | some n => .int n
    | none =>
        match lang.parseFloat (String.ofList v) with
        | some x => .num x
        | none => .str (String.ofList (unquoted v))

def bracketed (v : List Char) : Bool := v.head? = some '[' && v.getLast? = some ']'

def innerText (v : List Char) : List Char := Text.strip (v.drop 1).dropLast

theorem innerText_length {v : List Char} (list : bracketed v = true) :
    (innerText v).length < v.length := by
  cases v with
  | nil => cases list
  | cons c rest =>
      have shorter := trim_length_le space rest.dropLast
      have last := rest.length_dropLast
      change (trim space rest.dropLast).length < rest.length + 1
      omega

def parseScalar (v : List Char) : Json K :=
  if bracketed v then
    if innerText v = [] then .arr []
    else .arr (((innerText v).splitOn ',').attach.map fun x => parseScalar (Text.strip x.1))
  else parsePlain lang v
termination_by v.length
decreasing_by
  have piece := length_le_of_mem_splitOn x.2
  have shorter := trim_length_le space x.1
  have inner := innerText_length ‹bracketed v = true›
  change (trim space x.1).length < v.length
  omega

/-! ### Lines -/

abbrev Fields (K : Type) := List (String × Json K)

def setField (fields : Fields K) (key : String) (value : Json K) : Fields K :=
  if key ∈ fields.map Prod.fst then
    fields.map fun field => if field.1 = key then (key, value) else field
  else fields ++ [(key, value)]

/-- `parent[key] = value`, the parent being the mapping at a path from the root. -/
def setAt (fields : Fields K) : List String → String → Json K → Fields K
  | [], key, value => setField fields key value
  | step :: path, key, value =>
      match Json.field? fields step with
      | some (.obj inner) => setField fields step (.obj (setAt inner path key value))
      | _ => fields

/-- The mapping that is read, and the mappings that are open, the innermost first. -/
structure MiniState (K : Type) where
  root : Fields K
  stack : List (Int × List String)

def skipped (raw : List Char) : Bool := Text.strip raw = [] || (Text.strip raw).head? = some '#'

def indentOf (raw : List Char) : Nat := raw.length - (lstrip raw).length

def keyOf (raw : List Char) : String :=
  String.ofList (Text.strip (partition ':' (Text.strip raw)).1)

def valueOf (raw : List Char) : List Char :=
  Text.strip ((partition ':' (Text.strip raw)).2.takeWhile (· ≠ '#'))

/-- The body of the loop of `_mini_yaml`. The entry of the root has indentation -1, so the
stack is never empty. -/
def miniLine (s : MiniState K) (raw : List Char) : MiniState K :=
  if skipped raw then s
  else
    let stack := s.stack.dropWhile fun entry => (indentOf raw : Int) ≤ entry.1
    let parent := (stack.head?.map Prod.snd).getD []
    if valueOf raw = [] then
      { root := setAt s.root parent (keyOf raw) (.obj [])
        stack := (indentOf raw, parent ++ [keyOf raw]) :: stack }
    else
      { root := setAt s.root parent (keyOf raw) (parseScalar lang (valueOf raw))
        stack }

def miniStart : MiniState K := ⟨[], [(-1, [])]⟩

def miniYaml (text : String) : Fields K :=
  ((splitLines text.toList).foldl (miniLine lang) miniStart).root

end FlexivControl
