/-
Threads over one shared state.

Every thread runs a program of its own. A machine holds the state they share: it
says which event may come next and what it does to that state. An event is one call
of one thread, with the answer it got, or a move of the environment.
-/

import FlexivControl.Library.Footprint
import Mathlib.Data.List.Induction

namespace Pool

inductive Event (S : Signature) (ι ε : Type) where
  | call (thread : ι) (c : Call S)
  | env (move : ε)

structure Machine (S : Signature) (ι ε σ : Type) where
  enabled : σ → Event S ι ε → Prop
  next : σ → Event S ι ε → σ

/-- An element of `init ++ [last]` is in `init` or stands right after it. -/
theorem before_or_last {α : Type} {init pre post : List α} {last x : α}
    (split : init ++ [last] = pre ++ x :: post) : x ∈ init ∨ (pre = init ∧ x = last) := by
  induction post using List.reverseRecOn with
  | nil =>
      obtain ⟨before, same⟩ := List.append_inj' split rfl
      cases same
      exact Or.inr ⟨before.symm, rfl⟩
  | append_singleton post e ih =>
      rw [← List.cons_append, ← List.append_assoc] at split
      obtain ⟨before, _⟩ := List.append_inj' split rfl
      rw [before]
      exact Or.inl (List.mem_append_right pre List.mem_cons_self)

theorem only_split {α : Type} (kind : α → Prop) {xs ys pre post : List α} {x y : α}
    (split : xs ++ x :: ys = pre ++ y :: post) (found : kind y) (before : ∀ a ∈ xs, ¬ kind a)
    (after : ∀ a ∈ ys, ¬ kind a) : pre = xs ∧ y = x ∧ post = ys := by
  induction xs generalizing pre with
  | nil =>
      cases pre with
      | nil =>
          cases split
          exact ⟨rfl, rfl, rfl⟩
      | cons a pre =>
          cases split
          exact absurd found (after y (List.mem_append_right pre List.mem_cons_self))
  | cons a xs ih =>
      cases pre with
      | nil =>
          cases split
          exact absurd found (before y List.mem_cons_self)
      | cons b pre =>
          obtain ⟨same, rest⟩ := List.cons.inj split
          obtain ⟨front, element, back⟩ :=
            ih rest fun c inside => before c (List.mem_cons_of_mem a inside)
          exact ⟨by rw [front, same], element, back⟩

namespace Machine

variable {S : Signature} {ι ε σ : Type} (m : Machine S ι ε σ)

def run (s : σ) (events : List (Event S ι ε)) : σ := events.foldl m.next s

@[simp] theorem run_nil (s : σ) : m.run s [] = s := rfl

@[simp] theorem run_cons (s : σ) (e : Event S ι ε) (rest : List (Event S ι ε)) :
    m.run s (e :: rest) = m.run (m.next s e) rest := rfl

theorem run_append (s : σ) (xs ys : List (Event S ι ε)) :
    m.run s (xs ++ ys) = m.run (m.run s xs) ys :=
  List.foldl_append

/-- Every event is enabled where it happens. -/
def Valid (m : Machine S ι ε σ) : σ → List (Event S ι ε) → Prop
  | _, [] => True
  | s, e :: rest => m.enabled s e ∧ Valid m (m.next s e) rest

theorem valid_append (s : σ) (xs ys : List (Event S ι ε)) :
    m.Valid s (xs ++ ys) ↔ m.Valid s xs ∧ m.Valid (m.run s xs) ys := by
  induction xs generalizing s with
  | nil => simp only [List.nil_append, Valid, true_and, run_nil]
  | cons e xs ih => simp only [List.cons_append, Valid, ih, run_cons, and_assoc]

theorem Valid.enabled_at {m : Machine S ι ε σ} {s : σ} {pre post : List (Event S ι ε)}
    {e : Event S ι ε} (valid : m.Valid s (pre ++ e :: post)) : m.enabled (m.run s pre) e := by
  rw [valid_append] at valid
  exact valid.2.1

/-- The state satisfies `good` now and after each event. -/
def Throughout (good : σ → Prop) : σ → List (Event S ι ε) → Prop
  | s, [] => good s
  | s, e :: rest => good s ∧ Throughout good (m.next s e) rest

theorem throughout_append (good : σ → Prop) (s : σ) (xs ys : List (Event S ι ε)) :
    m.Throughout good s (xs ++ ys) ↔
      m.Throughout good s xs ∧ m.Throughout good (m.run s xs) ys := by
  induction xs generalizing s with
  | nil =>
      constructor
      · intro all
        cases ys with
        | nil => exact ⟨all, all⟩
        | cons e ys => exact ⟨all.1, all⟩
      · exact And.right
  | cons e xs ih =>
      simp only [List.cons_append, Throughout, ih, run_cons, and_assoc]

theorem Throughout.first {m : Machine S ι ε σ} {good : σ → Prop} {s : σ}
    {events : List (Event S ι ε)} (all : m.Throughout good s events) : good s := by
  cases events with
  | nil => exact all
  | cons e rest => exact all.1

end Machine

section Threads

variable {S : Signature} {ι ε : Type} [DecidableEq ι]

def callsOf (thread : ι) : List (Event S ι ε) → List (Call S)
  | [] => []
  | .env _ :: rest => callsOf thread rest
  | .call t c :: rest => if t = thread then c :: callsOf thread rest else callsOf thread rest

variable (thread : ι)

@[simp] theorem callsOf_nil : callsOf thread ([] : List (Event S ι ε)) = [] := rfl

@[simp] theorem callsOf_env (move : ε) (rest : List (Event S ι ε)) :
    callsOf thread (.env move :: rest) = callsOf thread rest := rfl

@[simp] theorem callsOf_own (c : Call S) (rest : List (Event S ι ε)) :
    callsOf thread (.call thread c :: rest) = c :: callsOf thread rest := if_pos rfl

theorem callsOf_other {t : ι} (other : t ≠ thread) (c : Call S) (rest : List (Event S ι ε)) :
    callsOf thread (.call t c :: rest) = callsOf thread rest := if_neg other

theorem callsOf_append (xs ys : List (Event S ι ε)) :
    callsOf thread (xs ++ ys) = callsOf thread xs ++ callsOf thread ys := by
  induction xs with
  | nil => rfl
  | cons e xs ih =>
      cases e with
      | env move => exact ih
      | call t c =>
          by_cases own : t = thread
          · subst own
            rw [List.cons_append, callsOf_own, callsOf_own, ih, List.cons_append]
          · rw [List.cons_append, callsOf_other thread own, callsOf_other thread own, ih]

theorem callsOf_member {thread : ι} {events : List (Event S ι ε)} {c : Call S} :
    c ∈ callsOf thread events ↔ Event.call thread c ∈ events := by
  induction events with
  | nil => exact ⟨fun member => (by cases member), fun member => (by cases member)⟩
  | cons e rest ih =>
      cases e with
      | env move =>
          rw [callsOf_env, ih, List.mem_cons]
          constructor
          · exact Or.inr
          · rintro (same | later)
            · cases same
            · exact later
      | call t d =>
          by_cases own : t = thread
          · subst own
            rw [callsOf_own, List.mem_cons, List.mem_cons, ih, Event.call.injEq]
            constructor
            · rintro (same | later)
              · exact Or.inl ⟨rfl, same⟩
              · exact Or.inr later
            · rintro (⟨_, same⟩ | later)
              · exact Or.inl same
              · exact Or.inr later
          · rw [callsOf_other thread own, ih, List.mem_cons, Event.call.injEq]
            constructor
            · exact Or.inr
            · rintro (⟨same, _⟩ | later)
              · exact absurd same.symm own
              · exact later

/-- A call of the thread stands somewhere among the events. -/
theorem callsOf_split {thread : ι} {events : List (Event S ι ε)} {xs ys : List (Call S)}
    {c : Call S} (calls : callsOf thread events = xs ++ c :: ys) :
    ∃ pre post, events = pre ++ .call thread c :: post ∧ callsOf thread pre = xs ∧
      callsOf thread post = ys := by
  induction events generalizing xs with
  | nil => exact absurd calls.symm (List.append_ne_nil_of_right_ne_nil xs (List.cons_ne_nil c ys))
  | cons e rest ih =>
      cases e with
      | env move =>
          obtain ⟨pre, post, split, before, after⟩ := ih calls
          exact ⟨.env move :: pre, post, by rw [split, List.cons_append], before, after⟩
      | call t d =>
          by_cases own : t = thread
          · subst own
            rw [callsOf_own] at calls
            cases xs with
            | nil =>
                rw [List.nil_append, List.cons.injEq] at calls
                obtain ⟨same, rest_eq⟩ := calls
                subst same
                exact ⟨[], rest, rfl, rfl, rest_eq⟩
            | cons x xs =>
                rw [List.cons_append, List.cons.injEq] at calls
                obtain ⟨same, rest_eq⟩ := calls
                subst same
                obtain ⟨pre, post, split, before, after⟩ := ih rest_eq
                refine ⟨.call t d :: pre, post, by rw [split, List.cons_append], ?_, after⟩
                rw [callsOf_own, before]
          · rw [callsOf_other thread own] at calls
            obtain ⟨pre, post, split, before, after⟩ := ih calls
            refine ⟨.call t d :: pre, post, by rw [split, List.cons_append], ?_, after⟩
            rw [callsOf_other thread own, before]

end Threads

/-! ### Runs -/

/-- The events are enabled one after the other, and what each thread does among them
is a trace of its program. -/
structure Run {S : Signature} {ι ε σ α : Type} [DecidableEq ι] (m : Machine S ι ε σ)
    (programs : ι → Program S α) (start : σ) (events : List (Event S ι ε)) : Prop where
  valid : m.Valid start events
  traced : ∀ thread, ∃ q, Trace (programs thread) (callsOf thread events) q

namespace Run

variable {S : Signature} {ι ε σ α τ : Type} [DecidableEq ι] {m : Machine S ι ε σ}
  {programs : ι → Program S α} {start : σ}

theorem initial {pre post : List (Event S ι ε)} (run : Run m programs start (pre ++ post)) :
    Run m programs start pre where
  valid := ((m.valid_append start pre post).mp run.valid).1
  traced := by
    intro thread
    obtain ⟨q, ran⟩ := run.traced thread
    rw [callsOf_append] at ran
    obtain ⟨mid, before, _⟩ := ran.split
    exact ⟨mid, before⟩

/-- To show something of a run, show it given that it holds of every shorter run it
goes through. -/
theorem prefix_induction {motive : List (Event S ι ε) → Prop}
    (step : ∀ events, Run m programs start events →
      (∀ pre e post, events = pre ++ e :: post → motive pre) → motive events)
    {events : List (Event S ι ε)} (run : Run m programs start events) : motive events := by
  induction length : events.length using Nat.strongRecOn generalizing events with
  | _ n ih =>
      apply step events run
      intro pre e post split
      subst split
      apply ih pre.length _ run.initial rfl
      rw [← length, List.length_append, List.length_cons]
      omega

theorem allowed {μ : Monitor S τ} {watch : τ} {post : α → τ → Prop} {thread : ι}
    (kept : (programs thread).wp μ post watch) {pre rest : List (Event S ι ε)} {c : Call S}
    (run : Run m programs start (pre ++ .call thread c :: rest))
    (admitted : μ.Admitted watch (callsOf thread (pre ++ .call thread c :: rest))) :
    μ.allows (μ.run watch (callsOf thread pre)) c.op := by
  obtain ⟨q, ran⟩ := run.traced thread
  have inside := Program.wp_allowed kept ran admitted
  rw [callsOf_append, callsOf_own] at inside
  exact inside.at_call

end Run

end Pool
