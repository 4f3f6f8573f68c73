/-
One counter that several parties move.

Every change belongs to a party, and what a party has outstanding is the sum of its own
changes. While nobody has given back more than it took, the counter is at least what any
one party has outstanding, and it is spent exactly when nobody has anything.
-/

import FlexivControl.Library.Pool
import Mathlib

namespace Ledger

variable {ι : Type} [DecidableEq ι]

def outstanding (party : ι) (changes : List (ι × Int)) : Int :=
  (changes.map fun change => if change.1 = party then change.2 else 0).sum

def counter (changes : List (ι × Int)) : Int := (changes.map Prod.snd).sum

@[simp] theorem outstanding_nil (party : ι) : outstanding party [] = 0 := rfl

theorem outstanding_cons (party : ι) (change : ι × Int) (rest : List (ι × Int)) :
    outstanding party (change :: rest) =
      (if change.1 = party then change.2 else 0) + outstanding party rest := rfl

@[simp] theorem outstanding_append (party : ι) (xs ys : List (ι × Int)) :
    outstanding party (xs ++ ys) = outstanding party xs + outstanding party ys := by
  rw [outstanding, List.map_append, List.sum_append]
  rfl

omit [DecidableEq ι] in
@[simp] theorem counter_nil : counter ([] : List (ι × Int)) = 0 := rfl

omit [DecidableEq ι] in
theorem counter_append (xs ys : List (ι × Int)) : counter (xs ++ ys) = counter xs + counter ys := by
  rw [counter, List.map_append, List.sum_append]
  rfl

/-- Over any set of parties that includes everyone with a change, the outstanding
amounts add up to the counter. -/
theorem counter_eq_sum {changes : List (ι × Int)} {parties : Finset ι}
    (everyone : ∀ change ∈ changes, change.1 ∈ parties) :
    counter changes = ∑ party ∈ parties, outstanding party changes := by
  induction changes with
  | nil => exact (Finset.sum_const_zero).symm
  | cons change rest ih =>
      rw [List.forall_mem_cons] at everyone
      have own : ∑ party ∈ parties, (if change.1 = party then change.2 else 0) = change.2 := by
        rw [Finset.sum_ite_eq, if_pos everyone.1]
      have rest_eq := ih everyone.2
      calc counter (change :: rest) = change.2 + counter rest := rfl
        _ = ∑ party ∈ parties, outstanding party (change :: rest) := by
          simp only [outstanding_cons, Finset.sum_add_distrib, own, rest_eq]

theorem outstanding_le_counter {changes : List (ι × Int)}
    (solvent : ∀ party, 0 ≤ outstanding party changes) (party : ι) :
    outstanding party changes ≤ counter changes := by
  have everyone : ∀ change ∈ changes,
      change.1 ∈ insert party (changes.map Prod.fst).toFinset := by
    intro change member
    apply Finset.mem_insert_of_mem
    rw [List.mem_toFinset]
    exact List.mem_map_of_mem member
  rw [counter_eq_sum everyone]
  exact Finset.single_le_sum (fun other _ => solvent other) (Finset.mem_insert_self _ _)

theorem counter_nonpos_iff {changes : List (ι × Int)}
    (solvent : ∀ party, 0 ≤ outstanding party changes) :
    counter changes ≤ 0 ↔ ∀ party, outstanding party changes = 0 := by
  constructor
  · intro spent party
    have below := outstanding_le_counter solvent party
    have above := solvent party
    omega
  · intro nobody
    have everyone : ∀ change ∈ changes, change.1 ∈ (changes.map Prod.fst).toFinset := by
      intro change member
      rw [List.mem_toFinset]
      exact List.mem_map_of_mem member
    rw [counter_eq_sum everyone, Finset.sum_eq_zero fun party _ => nobody party]

section Threads

open Pool

variable {S : Signature} {ι ε : Type} [DecidableEq ι]

/-- Every call of a thread changes the counter by its weight. -/
def tally (weight : Call S → Int) : List (Event S ι ε) → List (ι × Int)
  | [] => []
  | .env _ :: rest => tally weight rest
  | .call t c :: rest => (t, weight c) :: tally weight rest

omit [DecidableEq ι] in
theorem tally_append (weight : Call S → Int) (xs ys : List (Event S ι ε)) :
    tally weight (xs ++ ys) = tally weight xs ++ tally weight ys := by
  induction xs with
  | nil => rfl
  | cons e xs ih =>
      cases e with
      | env move => exact ih
      | call t c => exact congrArg ((t, weight c) :: ·) ih

theorem outstanding_tally (weight : Call S → Int) (t : ι) (events : List (Event S ι ε)) :
    outstanding t (tally weight events) = ((callsOf t events).map weight).sum := by
  induction events with
  | nil => rfl
  | cons e rest ih =>
      cases e with
      | env move => exact ih
      | call u c =>
          rw [tally, outstanding_cons, ih]
          by_cases own : u = t
          · subst own
            rw [if_pos rfl, callsOf_own, List.map_cons, List.sum_cons]
          · rw [if_neg own, callsOf_other t own, zero_add]

end Threads

end Ledger
