/-
Arrays of any shape, as a reader of JSON builds them from nested lists.

The entries of every level have one shape, or the reading is refused. An array that was
read is read again from its own nested lists.
-/

import FlexivControl.Library.Json

inductive NdArray (α : Type) where
  | entry (value : α)
  | rows (items : List (NdArray α))

namespace NdArray

variable {α K ε : Type}

mutual

def shape : NdArray α → List Nat
  | .entry _ => []
  | .rows items => items.length :: headShape items

def headShape : List (NdArray α) → List Nat
  | [] => []
  | first :: _ => first.shape

end

def uniform (items : List (NdArray α)) : Bool :=
  items.all fun item => item.shape = headShape items

mutual

/-- Nested lists as an array; `leaf` reads what is no list. -/
def read (leaf : Json K → Except ε α) (ragged : ε) : Json K → Except ε (NdArray α)
  | .arr items => do
      let items ← readAll leaf ragged items
      if uniform items then pure (.rows items) else throw ragged
  | other => do
      let value ← leaf other
      pure (.entry value)

def readAll (leaf : Json K → Except ε α) (ragged : ε) :
    List (Json K) → Except ε (List (NdArray α))
  | [] => pure []
  | item :: rest => do
      let first ← read leaf ragged item
      let rest ← readAll leaf ragged rest
      pure (first :: rest)

end

mutual

def toJson (back : α → Json K) : NdArray α → Json K
  | .entry value => back value
  | .rows items => .arr (allToJson back items)

def allToJson (back : α → Json K) : List (NdArray α) → List (Json K)
  | [] => []
  | first :: rest => first.toJson back :: allToJson back rest

end

mutual

def WellShaped : NdArray α → Prop
  | .entry _ => True
  | .rows items => uniform items = true ∧ AllWellShaped items

def AllWellShaped : List (NdArray α) → Prop
  | [] => True
  | first :: rest => first.WellShaped ∧ AllWellShaped rest

end

mutual

def flat : NdArray α → List α
  | .entry value => [value]
  | .rows items => allFlat items

def allFlat : List (NdArray α) → List α
  | [] => []
  | first :: rest => first.flat ++ allFlat rest

end

theorem allWellShaped_iff {items : List (NdArray α)} :
    AllWellShaped items ↔ ∀ item ∈ items, item.WellShaped := by
  induction items with
  | nil => exact ⟨fun _ item member => (List.not_mem_nil member).elim, fun _ => trivial⟩
  | cons first rest ih => rw [AllWellShaped, List.forall_mem_cons, ih]

theorem allToJson_eq (back : α → Json K) (items : List (NdArray α)) :
    allToJson back items = items.map (toJson back) := by
  induction items with
  | nil => rfl
  | cons first rest ih => rw [allToJson, ih, List.map_cons]

theorem list_induction {motive : NdArray α → Prop} (entry : ∀ value, motive (.entry value))
    (rows : ∀ items, (∀ item ∈ items, motive item) → motive (.rows items)) (a : NdArray α) :
    motive a := by
  generalize size : sizeOf a = n
  induction n using Nat.strong_induction_on generalizing a with
  | _ n ih =>
      cases a with
      | entry value => exact entry value
      | rows items =>
          apply rows
          intro item member
          have smaller := List.sizeOf_lt_of_mem member
          have inside : sizeOf (NdArray.rows items) = 1 + sizeOf items :=
            NdArray.rows.sizeOf_spec items
          exact ih (sizeOf item) (by omega) item rfl

section Reading

variable {leaf : Json K → Except ε α} {ragged : ε} {back : α → Json K}

theorem readAll_ok {items : List (Json K)} {rows : List (NdArray α)}
    (ran : readAll leaf ragged items = .ok rows) :
    ∀ row ∈ rows, ∃ item ∈ items, read leaf ragged item = .ok row := by
  induction items generalizing rows with
  | nil =>
      cases ran
      intro row member
      cases member
  | cons item rest ih =>
      rw [readAll] at ran
      cases head : read leaf ragged item with
      | error e =>
          rw [head] at ran
          cases ran
      | ok first =>
          cases tail : readAll leaf ragged rest with
          | error e =>
              rw [head, tail] at ran
              cases ran
          | ok later =>
              rw [head, tail] at ran
              cases ran
              intro row member
              rcases List.mem_cons.mp member with same | beyond
              · subst same
                exact ⟨item, List.mem_cons_self, head⟩
              · obtain ⟨from_item, inside, ran⟩ := ih tail row beyond
                exact ⟨from_item, List.mem_cons_of_mem item inside, ran⟩

theorem read_leaf {json : Json K} (flat : ∀ items, json ≠ .arr items) :
    read leaf ragged json = (leaf json).map NdArray.entry := by
  cases json with
  | arr items => exact absurd rfl (flat items)
  | _ => rfl

theorem read_wellShaped {json : Json K} {a : NdArray α} (ran : read leaf ragged json = .ok a) :
    a.WellShaped := by
  induction json using Json.list_induction generalizing a with
  | leaf json flat =>
      rw [read_leaf flat] at ran
      cases value : leaf json with
      | error e =>
          rw [value] at ran
          cases ran
      | ok v =>
          rw [value] at ran
          cases ran
          trivial
  | arr items ih =>
      rw [read] at ran
      cases inside : readAll leaf ragged items with
      | error e =>
          rw [inside] at ran
          cases ran
      | ok rows =>
          rw [inside] at ran
          change (if uniform rows then .ok (.rows rows) else .error ragged) = Except.ok a at ran
          by_cases even : uniform rows
          · rw [if_pos even] at ran
            cases ran
            refine ⟨even, allWellShaped_iff.mpr ?_⟩
            intro row member
            obtain ⟨item, origin, ran⟩ := readAll_ok inside row member
            exact ih item origin ran
          · rw [if_neg even] at ran
            cases ran

/-- An array is read again from its nested lists, if each of its values is. -/
theorem read_toJson (again : ∀ value, read leaf ragged (back value) = .ok (.entry value))
    {a : NdArray α} (shaped : a.WellShaped) : read leaf ragged (a.toJson back) = .ok a := by
  induction a using list_induction with
  | entry value => exact again value
  | rows items ih =>
      obtain ⟨even, each⟩ := shaped
      have rows : readAll leaf ragged (allToJson back items) = .ok items := by
        clear even
        induction items with
        | nil => rfl
        | cons first rest inner =>
            have head := ih first List.mem_cons_self each.1
            have tail := inner (fun item member => ih item (List.mem_cons_of_mem first member))
              each.2
            rw [allToJson, readAll, head, tail]
            rfl
      rw [toJson, read, rows]
      change (if uniform items then .ok (NdArray.rows items) else .error ragged) =
        Except.ok (NdArray.rows items)
      rw [if_pos even]

theorem headShape_of_shapes {β : Type} {xs : List (NdArray α)} {ys : List (NdArray β)}
    (shapes : ys.map shape = xs.map shape) : headShape ys = headShape xs := by
  cases xs with
  | nil =>
      rw [List.map_nil, List.map_eq_nil_iff] at shapes
      rw [shapes]
      rfl
  | cons x rest =>
      cases ys with
      | nil => cases shapes
      | cons y later => exact (List.cons.inj shapes).1

theorem uniform_of_shapes {β : Type} {xs : List (NdArray α)} {ys : List (NdArray β)}
    (shapes : ys.map shape = xs.map shape) : uniform ys = uniform xs := by
  have all : ∀ {γ : Type} (zs : List (NdArray γ)) (extents : List Nat),
      (zs.all fun item => decide (item.shape = extents)) =
        (zs.map shape).all fun found => decide (found = extents) := by
    intro γ zs extents
    rw [List.all_map]
    rfl
  unfold uniform
  rw [headShape_of_shapes shapes, all, all, shapes]

theorem readAll_again {β : Type} {other : Json K → Except ε β} (items : List (Json K))
    (ih : ∀ item ∈ items, ∀ {a : NdArray α}, read leaf ragged item = .ok a →
      ∃ b : NdArray β, read other ragged item = .ok b ∧ b.shape = a.shape)
    {rows : List (NdArray α)} (inside : readAll leaf ragged items = .ok rows) :
    ∃ rows' : List (NdArray β), readAll other ragged items = .ok rows' ∧
      rows'.map shape = rows.map shape := by
  induction items generalizing rows with
  | nil =>
      cases inside
      exact ⟨[], rfl, rfl⟩
  | cons item rest inner =>
      rw [readAll] at inside
      cases head : read leaf ragged item with
      | error e =>
          rw [head] at inside
          cases inside
      | ok first =>
          cases tail : readAll leaf ragged rest with
          | error e =>
              rw [head, tail] at inside
              cases inside
          | ok later =>
              rw [head, tail] at inside
              cases inside
              obtain ⟨first', ran, same⟩ := ih item List.mem_cons_self head
              obtain ⟨later', rest', shapes⟩ :=
                inner (fun item member => ih item (List.mem_cons_of_mem _ member)) tail
              refine ⟨first' :: later', ?_, ?_⟩
              · rw [readAll, ran, rest']
                rfl
              · rw [List.map_cons, List.map_cons, same, shapes]

/-- Whether nested lists have a shape, and which, does not depend on how their leaves are
read. -/
theorem read_again {β : Type} {other : Json K → Except ε β}
    (total : ∀ json value, leaf json = .ok value → ∃ value', other json = .ok value')
    {json : Json K} {a : NdArray α} (ran : read leaf ragged json = .ok a) :
    ∃ b, read other ragged json = .ok b ∧ b.shape = a.shape := by
  induction json using Json.list_induction generalizing a with
  | leaf json flat =>
      rw [read_leaf flat] at ran ⊢
      cases value : leaf json with
      | error e =>
          rw [value] at ran
          cases ran
      | ok v =>
          obtain ⟨v', value'⟩ := total json v value
          rw [value] at ran
          rw [value']
          cases ran
          exact ⟨.entry v', rfl, rfl⟩
  | arr items ih =>
      rw [read] at ran
      cases inside : readAll leaf ragged items with
      | error e =>
          rw [inside] at ran
          cases ran
      | ok rows =>
          rw [inside] at ran
          change (if uniform rows then .ok (.rows rows) else .error ragged) = Except.ok a at ran
          by_cases even : uniform rows
          · rw [if_pos even] at ran
            cases ran
            obtain ⟨rows', inside', shapes⟩ := readAll_again items ih inside
            refine ⟨.rows rows', ?_, ?_⟩
            · rw [read, inside']
              change (if uniform rows' then .ok (.rows rows') else .error ragged) =
                Except.ok (NdArray.rows rows')
              rw [if_pos ((uniform_of_shapes shapes).trans even)]
            · have lengths := congrArg List.length shapes
              rw [List.length_map, List.length_map] at lengths
              rw [shape, shape, lengths, headShape_of_shapes shapes]
          · rw [if_neg even] at ran
            cases ran

end Reading

def vector (xs : List α) : NdArray α := .rows (xs.map .entry)

def value? : NdArray α → Option α
  | .entry value => some value
  | .rows _ => none

def vector? : NdArray α → Option (List α)
  | .entry _ => none
  | .rows items => items.mapM value?

theorem vector?_vector (xs : List α) : vector? (vector xs) = some xs := by
  change (xs.map NdArray.entry).mapM value? = some xs
  induction xs with
  | nil => rfl
  | cons x rest ih => rw [List.map_cons, List.mapM_cons, ih]; rfl

theorem flat_vector (xs : List α) : (vector xs).flat = xs := by
  change allFlat (xs.map NdArray.entry) = xs
  induction xs with
  | nil => rfl
  | cons x rest ih => rw [List.map_cons, allFlat, ih]; rfl

theorem toJson_vector (back : α → Json K) (xs : List α) :
    (vector xs).toJson back = .arr (xs.map back) := by
  rw [vector, toJson, allToJson_eq, List.map_map]
  rfl

theorem vector_wellShaped (xs : List α) : (vector xs).WellShaped := by
  refine ⟨?_, allWellShaped_iff.mpr ?_⟩
  · unfold uniform
    rw [List.all_eq_true]
    intro item member
    obtain ⟨x, _, same⟩ := List.mem_map.mp member
    subst same
    cases xs with
    | nil => cases member
    | cons first rest => rfl
  · intro item member
    obtain ⟨x, _, same⟩ := List.mem_map.mp member
    subst same
    trivial

end NdArray
