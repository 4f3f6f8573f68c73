/-
Operations that answer or raise, and asking them from a script that raises in turn.
-/

import FlexivControl.Library.Footprint

abbrev Signature.raising (Op : Type) (Answer : Op → Type) (ε : Type) : Signature where
  Op := Op
  Resp op := Except ε (Answer op)

namespace Script

variable {Op : Type} {Answer : Op → Type} {ρ ε σ : Type}

/-- The answer, or the exception raised instead. -/
def request (op : Op) : Script (.raising Op Answer ε) ρ ε (Answer op) := do
  match ← perform (S := .raising Op Answer ε) op with
  | .ok answer => pure answer
  | .error e => throw e

theorem wp_request {m : Monitor (.raising Op Answer ε) σ} (op : Op)
    (post : Except ε (Answer op) → ρ → σ → Prop) (memory : ρ) (s : σ) :
    wp m (request op) post memory s ↔ m.allows s op ∧
      ∀ answer, m.admits s ⟨op, answer⟩ → post answer memory (m.observe s ⟨op, answer⟩) := by
  unfold request
  rw [wp_bind, wp_perform]
  constructor
  · rintro ⟨allowed, rest⟩
    refine ⟨allowed, ?_⟩
    intro answer admitted
    have ended := rest answer admitted
    cases answer with
    | ok a => exact ended
    | error e => exact ended
  · rintro ⟨allowed, rest⟩
    refine ⟨allowed, ?_⟩
    intro answer admitted
    have ended := rest answer admitted
    cases answer with
    | ok a => exact ended
    | error e => exact ended

theorem leavesMemory_request (op : Op) :
    LeavesMemory (request op : Script (.raising Op Answer ε) ρ ε (Answer op)) := by
  intro memory answer
  cases answer with
  | ok a => rfl
  | error e => rfl

theorem uses_request {ok : Op → Prop} {op : Op} (permitted : ok op) :
    Uses (S := .raising Op Answer ε) ok
      (request op : Script (.raising Op Answer ε) ρ ε (Answer op)) := by
  intro memory
  refine ⟨permitted, ?_⟩
  intro answer
  cases answer with
  | ok a => trivial
  | error e => trivial

/-- A question is one call, and what it is answered is what comes of it. -/
theorem trace_request {op : Op} {memory memory' : ρ} {calls : List (Call (.raising Op Answer ε))}
    {out : Except ε (Answer op)}
    (ran : Trace ((request op : Script (.raising Op Answer ε) ρ ε (Answer op)) memory) calls
      (.done (out, memory'))) :
    calls = [⟨op, out⟩] ∧ memory' = memory := by
  obtain ⟨answer, rest, split, answered⟩ := ran.of_call
  cases answer with
  | ok a =>
      obtain ⟨none, same⟩ := answered.of_done
      cases same
      exact ⟨split.trans (congrArg _ none), rfl⟩
  | error e =>
      obtain ⟨none, same⟩ := answered.of_done
      cases same
      exact ⟨split.trans (congrArg _ none), rfl⟩

theorem request_traced (op : Op) (answer : Except ε (Answer op)) (memory : ρ) :
    Trace ((request op : Script (.raising Op Answer ε) ρ ε (Answer op)) memory) [⟨op, answer⟩]
      (.done (answer, memory)) := by
  refine .cons ?_
  cases answer with
  | ok a => exact .nil _
  | error e => exact .nil _

theorem LeavesMemory.tryCatch {S : Signature} {α : Type} {x : Script S ρ ε α}
    {handler : ε → Script S ρ ε α} (body : LeavesMemory x)
    (recovery : ∀ e, LeavesMemory (handler e)) : LeavesMemory (tryCatch x handler) := by
  intro memory
  apply Program.Ends.bind (body memory)
  rintro ⟨out, memory'⟩ left
  change memory' = memory at left
  subst left
  cases out with
  | ok a => exact rfl
  | error e => exact recovery e memory'

end Script
