/-
One-dimensional arrays with the array library's broadcasting rule: two shapes
agree when they are equal or when one of them is one. Any other pair of shapes
is refused, which `none` records.
-/

namespace Broadcast

variable {α β γ : Type}

/-- Apply `f` elementwise, stretching a one-entry operand. -/
def map₂ (f : α → β → γ) : List α → List β → Option (List γ)
  | [a], ys => some (ys.map (f a))
  | xs, [b] => some (xs.map (fun a => f a b))
  | xs, ys => if xs.length = ys.length then some (List.zipWith f xs ys) else none

/-- The value an array gives for coordinate `i`: a one-entry array gives its one
value for every coordinate. -/
def entry : List α → Nat → Option α
  | [a], _ => some a
  | xs, i => xs[i]?

@[simp] theorem entry_singleton (a : α) (i : Nat) : entry [a] i = some a := rfl

@[simp] theorem entry_nil (i : Nat) : entry ([] : List α) i = none := rfl

@[simp] theorem entry_cons_cons (a b : α) (xs : List α) (i : Nat) :
    entry (a :: b :: xs) i = (a :: b :: xs)[i]? := rfl

theorem entry_map (f : α → β) (xs : List α) (i : Nat) :
    entry (xs.map f) i = (entry xs i).map f := by
  cases xs with
  | nil => rfl
  | cons a rest =>
      cases rest with
      | nil => rfl
      | cons b rest =>
          simp only [List.map_cons, entry_cons_cons]
          rw [← List.map_cons, ← List.map_cons, List.getElem?_map]

theorem entry_mem {xs : List α} {i : Nat} {a : α} (found : entry xs i = some a) : a ∈ xs := by
  cases xs with
  | nil => cases found
  | cons b rest =>
      cases rest with
      | nil =>
          rw [entry_singleton] at found
          exact Option.some.inj found ▸ List.mem_singleton.mpr rfl
      | cons c rest =>
          rw [entry_cons_cons] at found
          exact List.mem_of_getElem? found

/-- Coordinatewise meaning of a broadcast operation. -/
theorem entry_map₂ {f : α → β → γ} {xs : List α} {ys : List β} {zs : List γ}
    (result : map₂ f xs ys = some zs) (i : Nat) :
    entry zs i = (entry xs i).bind (fun a => (entry ys i).map (f a)) := by
  unfold map₂ at result
  split at result
  · cases result
    rw [entry_map, entry_singleton, Option.bind_some]
  · rename_i b _
    cases result
    rw [entry_map, entry_singleton]
    cases entry xs i <;> rfl
  · rename_i notOneLeft notOneRight
    split at result
    · rename_i sameLength
      cases result
      cases xs with
      | nil => rfl
      | cons a rest =>
          cases rest with
          | nil => exact absurd rfl (notOneLeft a)
          | cons a' rest =>
              cases ys with
              | nil => cases sameLength
              | cons b tail =>
                  cases tail with
                  | nil => exact absurd rfl (notOneRight b)
                  | cons b' tail =>
                      simp only [List.zipWith_cons_cons, entry_cons_cons]
                      rw [← List.zipWith_cons_cons, ← List.zipWith_cons_cons,
                        List.getElem?_zipWith]
                      cases (a :: a' :: rest)[i]? <;> cases (b :: b' :: tail)[i]? <;> rfl
    · cases result

theorem entry_map₂_some {f : α → β → γ} {xs : List α} {ys : List β} {zs : List γ}
    (result : map₂ f xs ys = some zs) {i : Nat} {c : γ} (found : entry zs i = some c) :
    ∃ a b, entry xs i = some a ∧ entry ys i = some b ∧ c = f a b := by
  rw [entry_map₂ result] at found
  cases left : entry xs i with
  | none => rw [left] at found; cases found
  | some a =>
      cases right : entry ys i with
      | none => rw [left, right] at found; cases found
      | some b =>
          rw [left, right] at found
          exact ⟨a, b, rfl, rfl, (Option.some.inj found).symm⟩

theorem map₂_of_length_eq (f : α → β → γ) {xs : List α} {ys : List β}
    (same : xs.length = ys.length) : map₂ f xs ys = some (List.zipWith f xs ys) := by
  unfold map₂
  split
  · rename_i a
    cases ys with
    | nil => cases same
    | cons b tail =>
        cases tail with
        | nil => rfl
        | cons c tail => cases same
  · rename_i b _
    cases xs with
    | nil => cases same
    | cons a rest =>
        cases rest with
        | nil => rfl
        | cons c rest => cases same
  · exact if_pos same

/-- Arrays of one length combine entry by entry. -/
theorem map₂_same (f : α → β → γ) {n : Nat} {xs : List α} {ys : List β} (left : xs.length = n)
    (right : ys.length = n) :
    ∃ zs : List γ, map₂ f xs ys = some zs ∧ zs.length = n ∧ ∀ (i : Nat) (z : γ), zs[i]? = some z →
      ∃ x y, xs[i]? = some x ∧ ys[i]? = some y ∧ z = f x y := by
  refine ⟨_, map₂_of_length_eq f (left.trans right.symm), ?_, ?_⟩
  · rw [List.length_zipWith, left, right, Nat.min_self]
  · intro i z found
    obtain ⟨x, y, atLeft, atRight, same⟩ := List.getElem?_zipWith_eq_some.mp found
    exact ⟨x, y, atLeft, atRight, same.symm⟩

/-- Arrays of two lengths, neither of them one, do not combine. -/
theorem map₂_apart (f : α → β → γ) {xs : List α} {ys : List β} (apart : xs.length ≠ ys.length)
    (left : xs.length ≠ 1) (right : ys.length ≠ 1) : map₂ f xs ys = none := by
  unfold map₂
  split
  · exact absurd rfl left
  · exact absurd rfl right
  · exact if_neg apart

section Members

variable {f : α → β → γ} {xs : List α} {ys : List β} {zs : List γ}

theorem mem_map₂ (result : map₂ f xs ys = some zs) {c : γ} (member : c ∈ zs) :
    ∃ a ∈ xs, ∃ b ∈ ys, c = f a b := by
  unfold map₂ at result
  split at result
  · rename_i a
    cases result
    obtain ⟨b, inside, same⟩ := List.mem_map.mp member
    exact ⟨a, List.mem_singleton_self a, b, inside, same.symm⟩
  · rename_i b _
    cases result
    obtain ⟨a, inside, same⟩ := List.mem_map.mp member
    exact ⟨a, inside, b, List.mem_singleton_self b, same.symm⟩
  · split at result
    · cases result
      obtain ⟨i, bound, same⟩ := List.mem_iff_getElem.mp member
      rw [List.getElem_zipWith] at same
      exact ⟨_, List.getElem_mem _, _, List.getElem_mem _, same.symm⟩
    · cases result

/-- Every left entry meets some right entry, unless there is none. -/
theorem map₂_mem_left (result : map₂ f xs ys = some zs) {a : α} (member : a ∈ xs)
    (entries : ys ≠ []) : ∃ b ∈ ys, f a b ∈ zs := by
  unfold map₂ at result
  split at result
  · rename_i a'
    cases result
    rw [List.mem_singleton.mp member]
    obtain ⟨b, inside⟩ := List.exists_mem_of_ne_nil ys entries
    exact ⟨b, inside, List.mem_map_of_mem inside⟩
  · rename_i b _
    cases result
    refine ⟨b, List.mem_singleton_self b, ?_⟩
    rw [List.mem_map]
    exact ⟨a, member, rfl⟩
  · split at result
    · rename_i same
      cases result
      obtain ⟨i, bound, found⟩ := List.mem_iff_getElem.mp member
      have bound' : i < ys.length := same ▸ bound
      refine ⟨ys[i], List.getElem_mem bound', ?_⟩
      rw [← found, List.mem_iff_getElem]
      refine ⟨i, ?_, List.getElem_zipWith⟩
      rw [List.length_zipWith]
      exact Nat.lt_min.mpr ⟨bound, bound'⟩
    · cases result

theorem map₂_mem_right (result : map₂ f xs ys = some zs) {b : β} (member : b ∈ ys)
    (entries : xs ≠ []) : ∃ a ∈ xs, f a b ∈ zs := by
  unfold map₂ at result
  split at result
  · rename_i a
    cases result
    exact ⟨a, List.mem_singleton_self a, List.mem_map_of_mem member⟩
  · rename_i b' _
    cases result
    rw [List.mem_singleton.mp member]
    obtain ⟨a, inside⟩ := List.exists_mem_of_ne_nil xs entries
    refine ⟨a, inside, ?_⟩
    rw [List.mem_map]
    exact ⟨a, inside, rfl⟩
  · split at result
    · rename_i same
      cases result
      obtain ⟨i, bound, found⟩ := List.mem_iff_getElem.mp member
      have bound' : i < xs.length := same ▸ bound
      refine ⟨xs[i], List.getElem_mem bound', ?_⟩
      rw [← found, List.mem_iff_getElem]
      refine ⟨i, ?_, List.getElem_zipWith⟩
      rw [List.length_zipWith]
      exact Nat.lt_min.mpr ⟨bound', bound⟩
    · cases result

/-- An array without entries leaves none. -/
theorem map₂_nil (result : map₂ f xs ys = some zs) (empty : xs = [] ∨ ys = []) : zs = [] := by
  rw [List.eq_nil_iff_forall_not_mem]
  intro c member
  obtain ⟨a, inside, b, inside', _⟩ := mem_map₂ result member
  rcases empty with none | none
  · rw [none] at inside
    cases inside
  · rw [none] at inside'
    cases inside'

end Members

end Broadcast
