/-
Programs as trees of calls on an environment, and the traces such programs leave.

A signature lists the operations and the type of the answer to each. A program
either is done or makes a call and goes on with whatever answer it is given, so
a program is finite along every sequence of answers.
-/

structure Signature where
  Op : Type
  Resp : Op → Type

inductive Program (S : Signature) (α : Type) where
  | done (value : α)
  | call (op : S.Op) (next : S.Resp op → Program S α)

/-- One call, with the answer it got. -/
structure Call (S : Signature) where
  op : S.Op
  resp : S.Resp op

namespace Program

variable {S : Signature} {α β γ : Type}

def bind : Program S α → (α → Program S β) → Program S β
  | .done a, f => f a
  | .call op next, f => .call op (fun r => (next r).bind f)

instance : Monad (Program S) where
  pure := .done
  bind := bind

@[simp] theorem pure_eq (a : α) : (pure a : Program S α) = .done a := rfl

@[simp] theorem done_bind (a : α) (f : α → Program S β) : (Program.done a >>= f) = f a := rfl

@[simp] theorem call_bind (op : S.Op) (next : S.Resp op → Program S α) (f : α → Program S β) :
    (Program.call op next >>= f) = .call op (fun r => next r >>= f) := rfl

theorem bind_done (p : Program S α) : (p >>= Program.done) = p := by
  induction p with
  | done a => rfl
  | call op next ih =>
      rw [call_bind]
      exact congrArg (Program.call op) (funext ih)

theorem bind_assoc (p : Program S α) (f : α → Program S β) (g : β → Program S γ) :
    (p >>= f >>= g) = (p >>= fun a => f a >>= g) := by
  induction p with
  | done a => rfl
  | call op next ih =>
      rw [call_bind, call_bind, call_bind]
      exact congrArg (Program.call op) (funext ih)

instance : LawfulMonad (Program S) :=
  LawfulMonad.mk' (Program S) bind_done (fun _ _ => rfl) bind_assoc

end Program

/-- `Trace p calls q`: answering the calls of `p` as listed leads to `q`. -/
inductive Trace {S : Signature} {α : Type} : Program S α → List (Call S) → Program S α → Prop where
  | nil (p : Program S α) : Trace p [] p
  | cons {op : S.Op} {next : S.Resp op → Program S α} {r : S.Resp op} {calls : List (Call S)}
      {q : Program S α} (rest : Trace (next r) calls q) :
      Trace (.call op next) (⟨op, r⟩ :: calls) q

namespace Trace

variable {S : Signature} {α β : Type}

theorem append {p q r : Program S α} {xs ys : List (Call S)} (first : Trace p xs q)
    (second : Trace q ys r) : Trace p (xs ++ ys) r := by
  induction first with
  | nil p => exact second
  | cons rest ih => exact cons (ih second)

theorem split {p r : Program S α} {xs ys : List (Call S)} (whole : Trace p (xs ++ ys) r) :
    ∃ q, Trace p xs q ∧ Trace q ys r := by
  induction xs generalizing p with
  | nil => exact ⟨p, nil p, whole⟩
  | cons x xs ih =>
      cases whole with
      | cons rest =>
          obtain ⟨q, before, after⟩ := ih rest
          exact ⟨q, cons before, after⟩

theorem bind {p q : Program S α} {calls : List (Call S)} (f : α → Program S β)
    (ran : Trace p calls q) : Trace (p >>= f) calls (q >>= f) := by
  induction ran with
  | nil p => exact nil _
  | cons rest ih => exact cons ih

/-- A trace of a sequence is inside its first part or has finished it. -/
theorem of_bind {p : Program S α} {f : α → Program S β} {calls : List (Call S)} {r : Program S β}
    (ran : Trace (p >>= f) calls r) :
    (∃ q, Trace p calls q ∧ r = (q >>= f)) ∨
      ∃ a xs ys, calls = xs ++ ys ∧ Trace p xs (.done a) ∧ Trace (f a) ys r := by
  induction p generalizing calls with
  | done a => exact Or.inr ⟨a, [], calls, rfl, nil _, ran⟩
  | call op next ih =>
      cases ran with
      | nil => exact Or.inl ⟨.call op next, nil _, rfl⟩
      | cons rest =>
          rcases ih _ rest with ⟨q, inside, same⟩ | ⟨a, xs, ys, same, finished, after⟩
          · exact Or.inl ⟨q, cons inside, same⟩
          · exact Or.inr ⟨a, _ :: xs, ys, by rw [same, List.cons_append], cons finished, after⟩

/-- A finished trace of a sequence has finished both parts. -/
theorem of_bind_done {p : Program S α} {f : α → Program S β} {calls : List (Call S)} {v : β}
    (ran : Trace (p >>= f) calls (.done v)) :
    ∃ a xs ys, calls = xs ++ ys ∧ Trace p xs (.done a) ∧ Trace (f a) ys (.done v) := by
  rcases ran.of_bind with ⟨q, inside, ended⟩ | finished
  · cases q with
    | done a =>
        rw [Program.done_bind] at ended
        exact ⟨a, calls, [], (List.append_nil calls).symm, inside, ended ▸ nil _⟩
    | call op next => cases ended
  · exact finished

theorem of_call {op : S.Op} {next : S.Resp op → Program S α} {calls : List (Call S)} {v : α}
    (ran : Trace (.call op next) calls (.done v)) :
    ∃ r rest, calls = ⟨op, r⟩ :: rest ∧ Trace (next r) rest (.done v) := by
  cases ran with
  | cons rest => exact ⟨_, _, rfl, rest⟩

theorem nil_or_call {op : S.Op} {next : S.Resp op → Program S α} {calls : List (Call S)}
    {q : Program S α} (ran : Trace (.call op next) calls q) :
    calls = [] ∨ ∃ r rest, calls = ⟨op, r⟩ :: rest ∧ Trace (next r) rest q := by
  cases ran with
  | nil => exact Or.inl rfl
  | cons rest => exact Or.inr ⟨_, _, rfl, rest⟩

theorem nil_of_done {a : α} {calls : List (Call S)} {q : Program S α}
    (ran : Trace (.done a) calls q) : calls = [] := by
  cases ran with
  | nil => rfl

theorem of_done {a v : α} {calls : List (Call S)} (ran : Trace (.done a) calls (.done v)) :
    calls = [] ∧ v = a := by
  cases ran with
  | nil => exact ⟨rfl, rfl⟩

end Trace

/-! ### Programs with a private memory that may raise -/

/-- A program that keeps a memory `ρ` through exceptions `ε`. -/
abbrev Script (S : Signature) (ρ ε α : Type) := ExceptT ε (StateT ρ (Program S)) α

namespace Script

variable {S : Signature} {ρ ε α β : Type}

def perform (op : S.Op) : Script S ρ ε (S.Resp op) :=
  fun memory => .call op (fun r => .done (.ok r, memory))

/-- Run `x`, then `cleanup` whether or not `x` raised. -/
def ensuring (x : Script S ρ ε α) (cleanup : Script S ρ ε Unit) : Script S ρ ε α :=
  fun memory => do
    let (out, memory) ← x memory
    let (closed, memory) ← cleanup memory
    match closed with
    | .ok () => pure (out, memory)
    | .error e => pure (.error e, memory)

end Script
