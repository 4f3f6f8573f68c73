/-
Rules for proving that a program only makes calls a monitor allows.

A monitor reads the calls of a trace one by one and says which operation it
allows next, as long as the answers are ones it admits. `wp` is the weakest
condition on the monitor's state under which a program keeps to it; its rules
follow the program's own structure.
-/

import FlexivControl.Library.Program

structure Monitor (S : Signature) (σ : Type) where
  observe : σ → Call S → σ
  admits : σ → Call S → Prop
  allows : σ → S.Op → Prop

namespace Monitor

variable {S : Signature} {σ α β : Type} (m : Monitor S σ)

def run (s : σ) (calls : List (Call S)) : σ := calls.foldl m.observe s

@[simp] theorem run_nil (s : σ) : m.run s [] = s := rfl

@[simp] theorem run_cons (s : σ) (c : Call S) (calls : List (Call S)) :
    m.run s (c :: calls) = m.run (m.observe s c) calls := rfl

theorem run_append (s : σ) (xs ys : List (Call S)) : m.run s (xs ++ ys) = m.run (m.run s xs) ys :=
  List.foldl_append

/-- Every answer is admitted. -/
def Admitted (m : Monitor S σ) : σ → List (Call S) → Prop
  | _, [] => True
  | s, c :: calls => m.admits s c ∧ Admitted m (m.observe s c) calls

/-- Every operation is allowed. -/
def Allowed (m : Monitor S σ) : σ → List (Call S) → Prop
  | _, [] => True
  | s, c :: calls => m.allows s c.op ∧ Allowed m (m.observe s c) calls

theorem admitted_append (s : σ) (xs ys : List (Call S)) :
    m.Admitted s (xs ++ ys) ↔ m.Admitted s xs ∧ m.Admitted (m.run s xs) ys := by
  induction xs generalizing s with
  | nil => simp only [List.nil_append, Admitted, true_and, run_nil]
  | cons c xs ih => simp only [List.cons_append, Admitted, ih, run_cons, and_assoc]

theorem allowed_append (s : σ) (xs ys : List (Call S)) :
    m.Allowed s (xs ++ ys) ↔ m.Allowed s xs ∧ m.Allowed (m.run s xs) ys := by
  induction xs generalizing s with
  | nil => simp only [List.nil_append, Allowed, true_and, run_nil]
  | cons c xs ih => simp only [List.cons_append, Allowed, ih, run_cons, and_assoc]

theorem admitted_of_forall (free : ∀ s c, m.admits s c) (s : σ) (calls : List (Call S)) :
    m.Admitted s calls := by
  induction calls generalizing s with
  | nil => trivial
  | cons c calls ih => exact ⟨free s c, ih _⟩

theorem admitted_of_mem {ok : Call S → Prop} (free : ∀ s c, ok c → m.admits s c) (s : σ)
    (calls : List (Call S)) (all : ∀ c ∈ calls, ok c) : m.Admitted s calls := by
  induction calls generalizing s with
  | nil => trivial
  | cons c calls ih =>
      rw [List.forall_mem_cons] at all
      exact ⟨free s c all.1, ih _ all.2⟩

/-- What an allowed trace says about the call after `before`. -/
theorem Allowed.at_call {m : Monitor S σ} {s : σ} {before after : List (Call S)} {c : Call S}
    (allowed : m.Allowed s (before ++ c :: after)) : m.allows (m.run s before) c.op := by
  rw [allowed_append] at allowed
  exact allowed.2.1

end Monitor

namespace Program

variable {S : Signature} {σ α β : Type} {m : Monitor S σ}

def wp (m : Monitor S σ) : Program S α → (α → σ → Prop) → σ → Prop
  | .done a, post, s => post a s
  | .call op next, post, s =>
      m.allows s op ∧ ∀ r, m.admits s ⟨op, r⟩ → (next r).wp m post (m.observe s ⟨op, r⟩)

@[simp] theorem wp_done (a : α) (post : α → σ → Prop) (s : σ) :
    (Program.done a : Program S α).wp m post s ↔ post a s := Iff.rfl

@[simp] theorem wp_call (op : S.Op) (next : S.Resp op → Program S α) (post : α → σ → Prop) (s : σ) :
    (Program.call op next).wp m post s ↔
      m.allows s op ∧ ∀ r, m.admits s ⟨op, r⟩ → (next r).wp m post (m.observe s ⟨op, r⟩) :=
  Iff.rfl

@[simp] theorem wp_bind (p : Program S α) (f : α → Program S β) (post : β → σ → Prop) (s : σ) :
    (p >>= f).wp m post s ↔ p.wp m (fun a s' => (f a).wp m post s') s := by
  induction p generalizing s with
  | done a => exact Iff.rfl
  | call op next ih => simp only [call_bind, wp_call, ih]

theorem wp_mono {p : Program S α} {post post' : α → σ → Prop} {s : σ} (kept : p.wp m post s)
    (weaker : ∀ a s', post a s' → post' a s') : p.wp m post' s := by
  induction p generalizing s with
  | done a => exact weaker a s kept
  | call op next ih => exact ⟨kept.1, fun r admitted => ih r (kept.2 r admitted)⟩

/-- A trace of a program that keeps to the monitor is allowed, and what is left
of the program keeps to it too. -/
theorem wp_sound {p q : Program S α} {post : α → σ → Prop} {s : σ} {calls : List (Call S)}
    (kept : p.wp m post s) (ran : Trace p calls q) (admitted : m.Admitted s calls) :
    m.Allowed s calls ∧ q.wp m post (m.run s calls) := by
  induction ran generalizing s with
  | nil p => exact ⟨trivial, kept⟩
  | cons rest ih =>
      obtain ⟨allowed, left⟩ := ih (kept.2 _ admitted.1) admitted.2
      exact ⟨⟨kept.1, allowed⟩, left⟩

theorem wp_allowed {p q : Program S α} {post : α → σ → Prop} {s : σ} {calls : List (Call S)}
    (kept : p.wp m post s) (ran : Trace p calls q) (admitted : m.Admitted s calls) :
    m.Allowed s calls :=
  (wp_sound kept ran admitted).1

/-- Conversely, where every operation has an admitted answer, a program whose admitted traces
are all allowed keeps to the monitor. -/
theorem wp_of_allowed (answers : ∀ s op, ∃ r, m.admits s ⟨op, r⟩) {p : Program S α} {s : σ}
    (all : ∀ calls q, Trace p calls q → m.Admitted s calls → m.Allowed s calls) :
    p.wp m (fun _ _ => True) s := by
  induction p generalizing s with
  | done a => trivial
  | call op next ih =>
      constructor
      · obtain ⟨r, admitted⟩ := answers s op
        exact (all [⟨op, r⟩] (next r) (.cons (.nil _)) ⟨admitted, trivial⟩).1
      · intro r admitted
        apply ih
        intro calls q ran later
        exact (all (⟨op, r⟩ :: calls) q (.cons ran) ⟨admitted, later⟩).2

end Program

namespace Monitor

variable {S : Signature} {σ τ α : Type}

/-- Where two related states watch the same call, whatever the finer monitor allows the
coarser one allows too, and the states after the call are related again. -/
def Refines (fine : Monitor S σ) (coarse : Monitor S τ) (related : σ → τ → Prop) : Prop :=
  ∀ s t op, related s t → fine.allows s op → coarse.allows t op ∧
    ∀ r, coarse.admits t ⟨op, r⟩ →
      fine.admits s ⟨op, r⟩ ∧ related (fine.observe s ⟨op, r⟩) (coarse.observe t ⟨op, r⟩)

theorem Refines.wp {fine : Monitor S σ} {coarse : Monitor S τ} {related : σ → τ → Prop}
    (refines : fine.Refines coarse related) {p : Program S α} {post : α → σ → Prop} {s : σ} {t : τ}
    (start : related s t) (kept : p.wp fine post s) :
    p.wp coarse (fun a t' => ∃ s', related s' t' ∧ post a s') t := by
  induction p generalizing s t with
  | done a => exact ⟨s, start, kept⟩
  | call op next ih =>
      obtain ⟨allowed, follows⟩ := refines s t op start kept.1
      refine ⟨allowed, fun r admitted => ?_⟩
      obtain ⟨admitted', still⟩ := follows r admitted
      exact ih r still (kept.2 r admitted')

end Monitor

namespace Monitor

variable {S : Signature} {α : Type}

def history (S : Signature) : Monitor S (List (Call S)) where
  observe seen c := seen ++ [c]
  admits _ _ := True
  allows _ _ := True

theorem run_history (seen calls : List (Call S)) : (history S).run seen calls = seen ++ calls := by
  induction calls generalizing seen with
  | nil => rw [run_nil, List.append_nil]
  | cons c calls ih => rw [run_cons, ih, history, List.append_assoc, List.singleton_append]

/-- The monitor that remembers, with a condition on what may come after what. -/
def remembering (may : List (Call S) → S.Op → Prop) : Monitor S (List (Call S)) where
  observe seen c := seen ++ [c]
  admits _ _ := True
  allows := may

theorem run_remembering (may : List (Call S) → S.Op → Prop) (seen calls : List (Call S)) :
    (remembering may).run seen calls = seen ++ calls := run_history seen calls

/-- What holds of a program's value and history holds of each finished trace. -/
theorem history_sound {p : Program S α} {post : α → List (Call S) → Prop} {calls : List (Call S)}
    {a : α} (kept : p.wp (history S) post []) (ran : Trace p calls (.done a)) : post a calls := by
  have reached := (Program.wp_sound kept ran
    ((history S).admitted_of_forall (fun _ _ => trivial) [] calls)).2
  rwa [Program.wp_done, run_history, List.nil_append] at reached

end Monitor

/-! ### Rules for scripts -/

namespace Script

variable {S : Signature} {σ ρ ε α β : Type} {m : Monitor S σ}

/-- The weakest condition on memory and monitor under which a script keeps to the monitor. -/
def wp (m : Monitor S σ) (x : Script S ρ ε α) (post : Except ε α → ρ → σ → Prop) (memory : ρ)
    (s : σ) : Prop :=
  Program.wp m (x memory) (fun out s' => post out.1 out.2 s') s

def afterStep (next : α → ρ → σ → Prop) (raised : ε → ρ → σ → Prop) :
    Except ε α → ρ → σ → Prop
  | .ok a, memory, s => next a memory s
  | .error e, memory, s => raised e memory s

@[simp] theorem afterStep_ok (next : α → ρ → σ → Prop) (raised : ε → ρ → σ → Prop) (a : α)
    (memory : ρ) (s : σ) : afterStep next raised (.ok a) memory s ↔ next a memory s := Iff.rfl

@[simp] theorem afterStep_error (next : α → ρ → σ → Prop) (raised : ε → ρ → σ → Prop) (e : ε)
    (memory : ρ) (s : σ) : afterStep next raised (.error e) memory s ↔ raised e memory s := Iff.rfl

theorem wp_mono {x : Script S ρ ε α} {post post' : Except ε α → ρ → σ → Prop} {memory : ρ} {s : σ}
    (kept : wp m x post memory s)
    (weaker : ∀ out memory' s', post out memory' s' → post' out memory' s') :
    wp m x post' memory s :=
  Program.wp_mono kept fun out s' => weaker out.1 out.2 s'

@[simp] theorem wp_pure (a : α) (post : Except ε α → ρ → σ → Prop) (memory : ρ) (s : σ) :
    wp m (pure a : Script S ρ ε α) post memory s ↔ post (.ok a) memory s := Iff.rfl

@[simp] theorem wp_throw (e : ε) (post : Except ε α → ρ → σ → Prop) (memory : ρ) (s : σ) :
    wp m (throw e : Script S ρ ε α) post memory s ↔ post (.error e) memory s := Iff.rfl

@[simp] theorem wp_get (post : Except ε ρ → ρ → σ → Prop) (memory : ρ) (s : σ) :
    wp m (get : Script S ρ ε ρ) post memory s ↔ post (.ok memory) memory s := Iff.rfl

@[simp] theorem wp_set (memory' : ρ) (post : Except ε PUnit → ρ → σ → Prop) (memory : ρ) (s : σ) :
    wp m (set memory' : Script S ρ ε PUnit) post memory s ↔ post (.ok ⟨⟩) memory' s := Iff.rfl

@[simp] theorem wp_modify (f : ρ → ρ) (post : Except ε PUnit → ρ → σ → Prop) (memory : ρ) (s : σ) :
    wp m (modify f : Script S ρ ε PUnit) post memory s ↔ post (.ok ⟨⟩) (f memory) s := Iff.rfl

@[simp] theorem wp_perform (op : S.Op) (post : Except ε (S.Resp op) → ρ → σ → Prop) (memory : ρ)
    (s : σ) :
    wp m (perform op : Script S ρ ε (S.Resp op)) post memory s ↔
      m.allows s op ∧ ∀ r, m.admits s ⟨op, r⟩ → post (.ok r) memory (m.observe s ⟨op, r⟩) :=
  Iff.rfl

@[simp] theorem wp_bind (x : Script S ρ ε α) (f : α → Script S ρ ε β)
    (post : Except ε β → ρ → σ → Prop) (memory : ρ) (s : σ) :
    wp m (x >>= f) post memory s ↔
      wp m x (afterStep (fun a => wp m (f a) post) (fun e => post (.error e))) memory s := by
  change Program.wp m ((x memory) >>= fun out => ExceptT.bindCont f out.1 out.2) _ s ↔ _
  rw [Program.wp_bind]
  constructor
  · intro kept
    apply Program.wp_mono kept
    rintro ⟨out, memory'⟩ s' rest
    cases out with
    | ok a => exact rest
    | error e => exact rest
  · intro kept
    apply Program.wp_mono kept
    rintro ⟨out, memory'⟩ s' rest
    cases out with
    | ok a => exact rest
    | error e => exact rest

@[simp] theorem wp_tryCatch (x : Script S ρ ε α) (handler : ε → Script S ρ ε α)
    (post : Except ε α → ρ → σ → Prop) (memory : ρ) (s : σ) :
    wp m (tryCatch x handler) post memory s ↔
      wp m x (afterStep (fun a => post (.ok a)) (fun e => wp m (handler e) post)) memory s := by
  unfold wp
  change Program.wp m (x memory >>= fun out => _) _ s ↔ _
  rw [Program.wp_bind]
  constructor
  · intro kept
    apply Program.wp_mono kept
    rintro ⟨out, memory'⟩ s' rest
    cases out with
    | ok a => exact rest
    | error e => exact rest
  · intro kept
    apply Program.wp_mono kept
    rintro ⟨out, memory'⟩ s' rest
    cases out with
    | ok a => exact rest
    | error e => exact rest

@[simp] theorem wp_ensuring (x : Script S ρ ε α) (cleanup : Script S ρ ε Unit)
    (post : Except ε α → ρ → σ → Prop) (memory : ρ) (s : σ) :
    wp m (ensuring x cleanup) post memory s ↔
      wp m x (fun out => wp m cleanup
        (afterStep (fun _ => post out) (fun e => post (.error e)))) memory s := by
  unfold ensuring wp
  rw [Program.wp_bind]
  constructor
  · intro kept
    apply Program.wp_mono kept
    rintro ⟨out, memory'⟩ s' rest
    rw [Program.wp_bind] at rest
    apply Program.wp_mono rest
    rintro ⟨closed, memory''⟩ s'' last
    cases closed with
    | ok a => exact last
    | error e => exact last
  · intro kept
    apply Program.wp_mono kept
    rintro ⟨out, memory'⟩ s' rest
    rw [Program.wp_bind]
    apply Program.wp_mono rest
    rintro ⟨closed, memory''⟩ s'' last
    cases closed with
    | ok a => exact last
    | error e => exact last

end Script
