/-
Scripts that keep an invariant, with what is known of the value they end with.
-/

import FlexivControl.Library.Footprint

namespace Script

variable {S : Signature} {σ ρ ε α β : Type} {m : Monitor S σ} {inv : ρ → σ → Prop}

/-- The invariant is kept, raised or not, and every value ended with is `good`. -/
def KeepsTo (m : Monitor S σ) (inv : ρ → σ → Prop) (good : α → Prop) (x : Script S ρ ε α) : Prop :=
  ∀ memory s, inv memory s →
    Script.wp m x (fun out memory' s' => inv memory' s' ∧ ∀ a, out = .ok a → good a) memory s

theorem keepsTo_pure {good : α → Prop} {a : α} (holds : good a) :
    KeepsTo m inv good (pure a : Script S ρ ε α) := by
  intro memory s kept
  refine ⟨kept, ?_⟩
  intro b same
  cases same
  exact holds

theorem KeepsTo.bind {known : α → Prop} {good : β → Prop} {x : Script S ρ ε α}
    {f : α → Script S ρ ε β} (first : KeepsTo m inv known x)
    (rest : ∀ a, known a → KeepsTo m inv good (f a)) : KeepsTo m inv good (x >>= f) := by
  intro memory s holds
  rw [wp_bind]
  apply wp_mono (first memory s holds)
  intro out memory' s' ended
  cases out with
  | ok a => exact rest a (ended.2 a rfl) memory' s' ended.1
  | error e =>
      refine ⟨ended.1, ?_⟩
      intro b impossible
      cases impossible

theorem KeepsTo.keeps_bind {known : α → Prop} {x : Script S ρ ε α} {f : α → Script S ρ ε β}
    (first : KeepsTo m inv known x) (rest : ∀ a, known a → Keeps m inv (f a)) :
    Keeps m inv (x >>= f) := by
  intro memory s holds
  rw [wp_bind]
  apply wp_mono (first memory s holds)
  intro out memory' s' ended
  cases out with
  | ok a => exact rest a (ended.2 a rfl) memory' s' ended.1
  | error e => exact ended.1

/-- What leaves the memory alone keeps an invariant that the operations it uses keep, where
they are answered as admitted. -/
theorem LeavesMemory.keeps_admitted {ok : S.Op → Prop} {x : Script S ρ ε α} (left : LeavesMemory x)
    (used : Uses ok x) (allowed : ∀ memory s op, ok op → inv memory s → m.allows s op)
    (kept : ∀ memory s op r, ok op → inv memory s → m.admits s ⟨op, r⟩ →
      inv memory (m.observe s ⟨op, r⟩)) : Keeps m inv x := by
  intro memory s holds
  have along : ∀ {p : Program S (Except ε α × ρ)} {s : σ}, p.Uses ok → inv memory s →
      p.wp m (fun _ s' => inv memory s') s := by
    intro p
    induction p with
    | done out => exact fun _ holds => holds
    | call op next ih =>
        intro s uses holds
        refine ⟨allowed memory s op uses.1 holds, ?_⟩
        intro r admitted
        exact ih r (uses.2 r) (kept memory s op r uses.1 holds admitted)
  have ends := Program.Ends.wp (left memory) (along (used memory) holds)
  apply Program.wp_mono ends
  rintro ⟨out, memory'⟩ s' ⟨still, same⟩
  change memory' = memory at same
  subst same
  exact still

theorem Keeps.to {x : Script S ρ ε α} (kept : Keeps m inv x) :
    KeepsTo m inv (fun _ => True) x := by
  intro memory s holds
  apply wp_mono (kept memory s holds)
  intro out memory' s' ended
  exact ⟨ended, fun _ _ => trivial⟩

end Script
