/-
A flag in a shared state that some events raise and others lower.

The last event that touches the flag decides it: it is up when one event raised it and
none has lowered it since.
-/

import FlexivControl.Library.Pool

namespace Pool

structure Latch {S : Signature} {ι ε σ : Type} (m : Machine S ι ε σ) (flag : σ → Bool) where
  raises : Event S ι ε → Prop
  lowers : Event S ι ε → Prop
  raise : ∀ s e, raises e → flag (m.next s e) = true
  lower : ∀ s e, lowers e → flag (m.next s e) = false
  keep : ∀ s e, ¬ raises e → ¬ lowers e → flag (m.next s e) = flag s

namespace Latch

variable {S : Signature} {ι ε σ : Type} {m : Machine S ι ε σ} {flag : σ → Bool}
  (latch : Latch m flag)

def LoweredIn (events : List (Event S ι ε)) : Prop := ∃ e ∈ events, latch.lowers e

theorem not_loweredIn_nil : ¬ latch.LoweredIn [] := fun ⟨_, member, _⟩ => by cases member

theorem loweredIn_cons {e : Event S ι ε} {rest : List (Event S ι ε)} :
    latch.LoweredIn (e :: rest) ↔ latch.lowers e ∨ latch.LoweredIn rest := by
  constructor
  · rintro ⟨d, member, lowers⟩
    rcases List.mem_cons.mp member with same | later
    · rw [same] at lowers
      exact Or.inl lowers
    · exact Or.inr ⟨d, later, lowers⟩
  · rintro (lowers | ⟨d, later, lowers⟩)
    · exact ⟨e, List.mem_cons_self, lowers⟩
    · exact ⟨d, List.mem_cons_of_mem e later, lowers⟩

/-- Some event raises the flag and none behind it lowers it. -/
def RaisedIn (events : List (Event S ι ε)) : Prop :=
  ∃ pre e post, events = pre ++ e :: post ∧ latch.raises e ∧ ¬ latch.LoweredIn post

theorem not_raisedIn_nil : ¬ latch.RaisedIn [] := by
  rintro ⟨pre, e, post, split, _⟩
  exact absurd split.symm (List.append_ne_nil_of_right_ne_nil pre (List.cons_ne_nil e post))

theorem raisedIn_cons {e : Event S ι ε} {rest : List (Event S ι ε)} :
    latch.RaisedIn (e :: rest) ↔
      (latch.raises e ∧ ¬ latch.LoweredIn rest) ∨ latch.RaisedIn rest := by
  constructor
  · rintro ⟨pre, d, post, split, raises, unlowered⟩
    cases pre with
    | nil =>
        cases split
        exact Or.inl ⟨raises, unlowered⟩
    | cons a pre =>
        cases split
        exact Or.inr ⟨pre, d, post, rfl, raises, unlowered⟩
  · rintro (⟨raises, unlowered⟩ | ⟨pre, d, post, split, raises, unlowered⟩)
    · exact ⟨[], e, rest, rfl, raises, unlowered⟩
    · exact ⟨e :: pre, d, post, by rw [split, List.cons_append], raises, unlowered⟩

theorem raised_iff (s : σ) (events : List (Event S ι ε)) :
    flag (m.run s events) = true ↔
      (flag s = true ∧ ¬ latch.LoweredIn events) ∨ latch.RaisedIn events := by
  induction events generalizing s with
  | nil =>
      constructor
      · intro up
        exact Or.inl ⟨up, latch.not_loweredIn_nil⟩
      · rintro (⟨up, _⟩ | raised)
        · exact up
        · exact absurd raised latch.not_raisedIn_nil
  | cons e rest ih =>
      rw [m.run_cons, ih, latch.loweredIn_cons, latch.raisedIn_cons]
      by_cases raises : latch.raises e
      · have up := latch.raise s e raises
        constructor
        · rintro (⟨_, unlowered⟩ | raised)
          · exact Or.inr (Or.inl ⟨raises, unlowered⟩)
          · exact Or.inr (Or.inr raised)
        · rintro (⟨_, unlowered⟩ | ⟨_, unlowered⟩ | raised)
          · exact Or.inl ⟨up, fun later => unlowered (Or.inr later)⟩
          · exact Or.inl ⟨up, unlowered⟩
          · exact Or.inr raised
      · by_cases lowers : latch.lowers e
        · have down := latch.lower s e lowers
          constructor
          · rintro (⟨up, _⟩ | raised)
            · rw [down] at up
              cases up
            · exact Or.inr (Or.inr raised)
          · rintro (⟨_, unlowered⟩ | ⟨raised, _⟩ | raised)
            · exact absurd (Or.inl lowers) unlowered
            · exact absurd raised raises
            · exact Or.inr raised
        · rw [latch.keep s e raises lowers]
          constructor
          · rintro (⟨up, unlowered⟩ | raised)
            · exact Or.inl ⟨up, fun lowered => lowered.elim lowers unlowered⟩
            · exact Or.inr (Or.inr raised)
          · rintro (⟨up, unlowered⟩ | ⟨raised, _⟩ | raised)
            · exact Or.inl ⟨up, fun later => unlowered (Or.inr later)⟩
            · exact absurd raised raises
            · exact Or.inr raised

end Latch

end Pool
