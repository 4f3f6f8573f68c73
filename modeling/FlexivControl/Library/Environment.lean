/-
An environment with a state of its own behind the answers it gives.

A program sees answers only. The environment may have come to any of several states by
them, so a monitor follows the set of those, and what the program's rules show of every
state in the set holds of the one the environment is in.
-/

import FlexivControl.Library.Footprint
import Mathlib.Data.Set.Basic

structure Environment (S : Signature) (γ : Type) where
  step : γ → Call S → γ → Prop

/-- Where every operation has an answer that is admitted, a program can be run to its end. -/
theorem Program.exists_admitted {S : Signature} {σ α : Type} {m : Monitor S σ}
    (answers : ∀ s op, ∃ r, m.admits s ⟨op, r⟩) (p : Program S α) :
    ∀ s, ∃ calls a, Trace p calls (.done a) ∧ m.Admitted s calls := by
  induction p with
  | done a => exact fun _ => ⟨[], a, .nil _, trivial⟩
  | call op next ih =>
      intro s
      obtain ⟨r, admitted⟩ := answers s op
      obtain ⟨calls, a, ran, later⟩ := ih r (m.observe s ⟨op, r⟩)
      exact ⟨⟨op, r⟩ :: calls, a, .cons ran, admitted, later⟩

namespace Environment

variable {S : Signature} {γ α : Type} {env : Environment S γ}

/-- The states an environment goes through while it gives the answers of a trace. -/
inductive Follows (env : Environment S γ) : γ → List (Call S) → γ → Prop where
  | nil (g : γ) : Follows env g [] g
  | cons {g g' g'' : γ} {c : Call S} {calls : List (Call S)} (step : env.step g c g')
      (rest : Follows env g' calls g'') : Follows env g (c :: calls) g''

theorem Follows.split {l l' : List (Call S)} :
    ∀ {g g' : γ}, env.Follows g (l ++ l') g' → ∃ between, env.Follows g l between ∧
      env.Follows between l' g' := by
  induction l with
  | nil => exact fun follows => ⟨_, .nil _, follows⟩
  | cons c l ih =>
      intro g g' follows
      cases follows with
      | cons step rest =>
          obtain ⟨between, first, later⟩ := ih rest
          exact ⟨between, .cons step first, later⟩

theorem Follows.one {g g' : γ} {c : Call S} (follows : env.Follows g [c] g') :
    env.step g c g' := by
  cases follows with
  | cons step rest =>
      cases rest
      exact step

/-- The states the environment may be in; a call is allowed while all of them are safe. -/
def possible (env : Environment S γ) (safe : γ → Prop) : Monitor S (Set γ) where
  observe states c := {g' | ∃ g ∈ states, env.step g c g'}
  admits _ _ := True
  allows states _ := ∀ g ∈ states, safe g

theorem Follows.possible {safe : γ → Prop} {g g' : γ} {calls : List (Call S)}
    (follows : env.Follows g calls g') :
    ∀ {states : Set γ}, g ∈ states → g' ∈ (env.possible safe).run states calls := by
  induction follows with
  | nil g => exact id
  | cons step _ ih =>
      intro states member
      exact ih ⟨_, member, step⟩

section Sound

variable {safe : γ → Prop} {p q : Program S α} {post : α → Set γ → Prop} {g g' : γ}
  {states : Set γ} {calls : List (Call S)}

theorem Follows.stays_safe (follows : env.Follows g calls g') (start : g ∈ states)
    (kept : p.wp (env.possible safe) (fun _ states' => ∀ g ∈ states', safe g) states)
    (ran : Trace p calls q) : safe g' := by
  have left := (Program.wp_sound kept ran
    ((env.possible safe).admitted_of_forall (fun _ _ => trivial) states calls)).2
  have member := @Follows.possible S γ env safe g g' calls follows states start
  cases q with
  | done a => exact left g' member
  | call op next => exact left.1 g' member

/-- Where the program ends, the environment is in one of the states it is left with. -/
theorem Follows.ended {a : α} (follows : env.Follows g calls g') (start : g ∈ states)
    (kept : p.wp (env.possible safe) post states) (ran : Trace p calls (.done a)) :
    ∃ states', g' ∈ states' ∧ post a states' :=
  ⟨_, follows.possible start, (Program.wp_sound kept ran
    ((env.possible safe).admitted_of_forall (fun _ _ => trivial) states calls)).2⟩

end Sound

end Environment
