/-
Tables in which an entry is an affine function of another entry.

A chain of such entries may be followed to its end, may come back to itself or may leave
the table. Following it composes the functions on the way: the entry at its beginning is
one affine function of where it ends.
-/

import Mathlib.Algebra.Ring.Defs
import Mathlib.Tactic.Ring

namespace AffineChain

/-- `factor` times the target's value, plus `shift`. -/
structure Link (α K : Type) where
  target : α
  factor : K
  shift : K

variable {α K : Type} [CommSemiring K]

/-- The entry `x` leads in `n` links to `last`, which is no entry of the table. -/
inductive Reaches (table : α → Option (Link α K)) : ℕ → α → α → Prop where
  | done {x : α} (out : table x = none) : Reaches table 0 x x
  | link {x last : α} {n : ℕ} {l : Link α K} (found : table x = some l)
      (rest : Reaches table n l.target last) : Reaches table (n + 1) x last

/-- The value of `x` where the chain of `x` ends, for given values outside the table. -/
inductive Resolves (table : α → Option (Link α K)) (drive : α → K) : α → K → Prop where
  | done {x : α} (out : table x = none) : Resolves table drive x (drive x)
  | link {x : α} {v : K} {l : Link α K} (found : table x = some l)
      (rest : Resolves table drive l.target v) : Resolves table drive x (l.factor * v + l.shift)

/-- At most `n` links further, composed into one. -/
def follow (table : α → Option (Link α K)) : ℕ → Link α K → Link α K
  | 0, l => l
  | n + 1, l =>
      match table l.target with
      | none => l
      | some next =>
          follow table n ⟨next.target, l.factor * next.factor, l.factor * next.shift + l.shift⟩

variable {table : α → Option (Link α K)} {drive : α → K} {x last : α} {l : Link α K} {n depth : ℕ}

theorem Resolves.unique {v w : K} (first : Resolves table drive x v)
    (second : Resolves table drive x w) : v = w := by
  induction first generalizing w with
  | done out =>
      cases second with
      | done out' => rfl
      | link found rest => exact absurd (out.symm.trans found) (Option.some_ne_none _).symm
  | link found rest ih =>
      cases second with
      | done out => exact absurd (out.symm.trans found) (Option.some_ne_none _).symm
      | link found' rest' =>
          cases Option.some.inj (found.symm.trans found')
          rw [ih rest']

/-- Far enough along the chain the composed link points at its end. -/
theorem follow_target (reaches : Reaches table n l.target last) (within : n ≤ depth) :
    (follow table depth l).target = last := by
  induction depth generalizing n l with
  | zero =>
      cases reaches with
      | done out => rfl
      | link found rest => exact absurd within (Nat.not_succ_le_zero _)
  | succ depth ih =>
      unfold follow
      cases reaches with
      | done out => rw [out]
      | link found rest =>
          rw [found]
          exact ih rest (Nat.le_of_succ_le_succ within)

/-- The composed link can only leave the table at the end of the chain. -/
theorem reaches_of_follow (out : table (follow table depth l).target = none) :
    ∃ n ≤ depth, Reaches table n l.target (follow table depth l).target := by
  induction depth generalizing l with
  | zero => exact ⟨0, le_rfl, .done out⟩
  | succ depth ih =>
      unfold follow at out ⊢
      cases found : table l.target with
      | none => exact ⟨0, Nat.zero_le _, .done found⟩
      | some next =>
          rw [found] at out
          dsimp only at out ⊢
          obtain ⟨n, within, reaches⟩ := ih out
          exact ⟨n + 1, Nat.succ_le_succ within, .link found reaches⟩

theorem follow_value {v : K} (resolves : Resolves table drive (follow table depth l).target v) :
    ∃ w, Resolves table drive l.target w ∧
      l.factor * w + l.shift =
        (follow table depth l).factor * v + (follow table depth l).shift := by
  induction depth generalizing l with
  | zero => exact ⟨v, resolves, rfl⟩
  | succ depth ih =>
      unfold follow at resolves ⊢
      cases found : table l.target with
      | none =>
          rw [found] at resolves
          exact ⟨v, resolves, rfl⟩
      | some next =>
          rw [found] at resolves
          dsimp only at resolves ⊢
          obtain ⟨w, rest, same⟩ := ih resolves
          refine ⟨next.factor * w + next.shift, .link found rest, ?_⟩
          rw [← same]
          ring

end AffineChain
