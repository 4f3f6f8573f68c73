/-
Which operations a program can perform at all, whatever it is answered, and what
that alone says about a monitor watching it.
-/

import FlexivControl.Library.Monitor

namespace Program

variable {S : Signature} {α β σ : Type} {ok ok' : S.Op → Prop}

/-- Along every sequence of answers, only operations satisfying `ok`. -/
def Uses (ok : S.Op → Prop) : Program S α → Prop
  | .done _ => True
  | .call op next => ok op ∧ ∀ r, (next r).Uses ok

theorem Uses.bind {p : Program S α} {f : α → Program S β} (first : p.Uses ok)
    (rest : ∀ a, (f a).Uses ok) : (p >>= f).Uses ok := by
  induction p with
  | done a => exact rest a
  | call op next ih => exact ⟨first.1, fun r => ih r (first.2 r)⟩

theorem Uses.mono {p : Program S α} (used : p.Uses ok) (wider : ∀ op, ok op → ok' op) :
    p.Uses ok' := by
  induction p with
  | done a => trivial
  | call op next ih => exact ⟨wider op used.1, fun r => ih r (used.2 r)⟩

/-- What a trace of the program consists of, and that the rest uses no more. -/
theorem Uses.trace {p q : Program S α} {calls : List (Call S)} (used : p.Uses ok)
    (ran : Trace p calls q) : (∀ c ∈ calls, ok c.op) ∧ q.Uses ok := by
  induction ran with
  | nil p => exact ⟨fun c none => (by cases none), used⟩
  | @cons op next r calls q rest ih =>
      obtain ⟨inside, left⟩ := ih (used.2 r)
      refine ⟨?_, left⟩
      intro c member
      rcases List.mem_cons.mp member with first | later
      · rw [first]
        exact used.1
      · exact inside c later

/-- An invariant of the monitor that every used operation keeps, and under which
every used operation is allowed. -/
theorem Uses.wp {p : Program S α} {m : Monitor S σ} (used : p.Uses ok) {inv : σ → Prop}
    (allowed : ∀ s op, ok op → inv s → m.allows s op)
    (kept : ∀ s op r, ok op → inv s → inv (m.observe s ⟨op, r⟩)) {s : σ} (holds : inv s) :
    p.wp m (fun _ s' => inv s') s := by
  induction p generalizing s with
  | done a => exact holds
  | call op next ih =>
      exact ⟨allowed s op used.1 holds, fun r _ => ih r (used.2 r) (kept s op r used.1 holds)⟩

/-- Whatever it is answered, the program ends only with values satisfying `good`. -/
def Ends (good : α → Prop) : Program S α → Prop
  | .done a => good a
  | .call _ next => ∀ r, (next r).Ends good

theorem Ends.trace {good : α → Prop} {p : Program S α} {calls : List (Call S)} {a : α}
    (ends : p.Ends good) (ran : Trace p calls (.done a)) : good a := by
  induction calls generalizing p with
  | nil =>
      cases ran
      exact ends
  | cons c calls ih =>
      cases ran with
      | cons rest => exact ih (ends _) rest

theorem Ends.bind {good : α → Prop} {good' : β → Prop} {p : Program S α} {f : α → Program S β}
    (first : p.Ends good) (rest : ∀ a, good a → (f a).Ends good') : (p >>= f).Ends good' := by
  induction p with
  | done a => exact rest a first
  | call op next ih => exact fun r => ih r (first r)

theorem Ends.mono {good good' : α → Prop} {p : Program S α} (ends : p.Ends good)
    (weaker : ∀ a, good a → good' a) : p.Ends good' := by
  induction p with
  | done a => exact weaker a ends
  | call op next ih => exact fun r => ih r (ends r)

/-- What is shown along the way and what holds of the value hold together at the end. -/
theorem Ends.wp {good : α → Prop} {m : Monitor S σ} {p : Program S α} {post : α → σ → Prop} {s : σ}
    (ends : p.Ends good) (kept : p.wp m post s) :
    p.wp m (fun a s' => post a s' ∧ good a) s := by
  induction p generalizing s with
  | done a => exact ⟨kept, ends⟩
  | call op next ih => exact ⟨kept.1, fun r admitted => ih r (ends r) (kept.2 r admitted)⟩

/-- What only some values may be followed by need not agree on the others. -/
theorem Ends.bind_congr {good : α → Prop} {p : Program S α} {f g : α → Program S β}
    (ends : p.Ends good) (same : ∀ a, good a → f a = g a) : (p >>= f) = (p >>= g) := by
  induction p with
  | done a => exact same a ends
  | call op next ih =>
      rw [call_bind, call_bind]
      exact congrArg (Program.call op) (funext fun r => ih r (ends r))

theorem ends_any (p : Program S α) : p.Ends fun _ => True := by
  induction p with
  | done a => trivial
  | call op next ih => exact ih

/-- Where every operation can be answered, every program can be run to its end. -/
theorem exists_finished (answers : ∀ op, Nonempty (S.Resp op)) (p : Program S α) :
    ∃ calls a, Trace p calls (.done a) := by
  induction p with
  | done a => exact ⟨[], a, .nil _⟩
  | call op next ih =>
      obtain ⟨r⟩ := answers op
      obtain ⟨calls, a, ran⟩ := ih r
      exact ⟨⟨op, r⟩ :: calls, a, .cons ran⟩

theorem uses_any (p : Program S α) : p.Uses fun _ => True := by
  induction p with
  | done a => trivial
  | call op next ih => exact ⟨trivial, ih⟩

end Program

namespace Script

variable {S : Signature} {ρ ε α β σ : Type} {ok ok' : S.Op → Prop}

def Uses (ok : S.Op → Prop) (x : Script S ρ ε α) : Prop := ∀ memory : ρ, Program.Uses ok (x memory)

theorem uses_pure (a : α) : Uses ok (pure a : Script S ρ ε α) := fun _ => trivial

theorem uses_throw (e : ε) : Uses ok (throw e : Script S ρ ε α) := fun _ => trivial

theorem uses_get : Uses ok (get : Script S ρ ε ρ) := fun _ => trivial

theorem uses_set (memory : ρ) : Uses ok (set memory : Script S ρ ε PUnit) := fun _ => trivial

theorem uses_modify (f : ρ → ρ) : Uses ok (modify f : Script S ρ ε PUnit) := fun _ => trivial

theorem uses_perform {op : S.Op} (permitted : ok op) :
    Uses ok (perform op : Script S ρ ε (S.Resp op)) :=
  fun _ => ⟨permitted, fun _ => trivial⟩

theorem Uses.bind {x : Script S ρ ε α} {f : α → Script S ρ ε β} (first : Uses ok x)
    (rest : ∀ a, Uses ok (f a)) : Uses ok (x >>= f) := by
  intro memory
  apply Program.Uses.bind (first memory)
  intro out
  obtain ⟨result, memory'⟩ := out
  cases result with
  | ok a => exact rest a memory'
  | error e => trivial

theorem Uses.tryCatch {x : Script S ρ ε α} {handler : ε → Script S ρ ε α} (body : Uses ok x)
    (recovery : ∀ e, Uses ok (handler e)) : Uses ok (tryCatch x handler) := by
  intro memory
  apply Program.Uses.bind (body memory)
  intro out
  obtain ⟨result, memory'⟩ := out
  cases result with
  | ok a => trivial
  | error e => exact recovery e memory'

theorem Uses.ensuring {x : Script S ρ ε α} {cleanup : Script S ρ ε Unit} (body : Uses ok x)
    (closing : Uses ok cleanup) : Uses ok (ensuring x cleanup) := by
  intro memory
  apply Program.Uses.bind (body memory)
  intro out
  apply Program.Uses.bind (closing out.2)
  intro closed
  obtain ⟨result, memory'⟩ := closed
  cases result <;> trivial

theorem Uses.mono {x : Script S ρ ε α} (used : Uses ok x) (wider : ∀ op, ok op → ok' op) :
    Uses ok' x :=
  fun memory => (used memory).mono wider

theorem Uses.wp {x : Script S ρ ε α} {m : Monitor S σ} (used : Uses ok x) {inv : σ → Prop}
    (allowed : ∀ s op, ok op → inv s → m.allows s op)
    (kept : ∀ s op r, ok op → inv s → inv (m.observe s ⟨op, r⟩)) {memory : ρ} {s : σ}
    (holds : inv s) : Script.wp m x (fun _ _ s' => inv s') memory s :=
  (used memory).wp allowed kept holds

def NeverRaises (x : Script S ρ ε α) : Prop :=
  ∀ memory, (x memory).Ends fun out => ∃ a, out.1 = .ok a

theorem NeverRaises.tryCatch (x : Script S ρ ε α) {handler : ε → Script S ρ ε α}
    (recovery : ∀ e, NeverRaises (handler e)) : NeverRaises (tryCatch x handler) := by
  intro memory
  apply Program.Ends.bind (Program.ends_any (x memory))
  intro out _
  obtain ⟨result, memory'⟩ := out
  cases result with
  | ok a => exact ⟨a, rfl⟩
  | error e => exact recovery e memory'

theorem trace_then {x : Script S ρ ε α} {f : α → Script S ρ ε β} {memory memory' : ρ}
    {xs ys : List (Call S)} {a : α} {q : Program S (Except ε β × ρ)}
    (first : Trace (x memory) xs (.done (.ok a, memory'))) (rest : Trace (f a memory') ys q) :
    Trace ((x >>= f) memory) (xs ++ ys) q := by
  have sequence := first.bind fun out : Except ε α × ρ => ExceptT.bindCont f out.1 out.2
  exact Trace.append (q := f a memory') sequence rest

/-- A first part that makes no calls. -/
theorem trace_silent {x : Script S ρ ε α} {f : α → Script S ρ ε β} {memory memory' : ρ}
    {ys : List (Call S)} {a : α} {q : Program S (Except ε β × ρ)}
    (first : Trace (x memory) [] (.done (.ok a, memory'))) (rest : Trace (f a memory') ys q) :
    Trace ((x >>= f) memory) ys q :=
  trace_then first rest

theorem trace_within {x : Script S ρ ε α} (f : α → Script S ρ ε β) {memory : ρ}
    {calls : List (Call S)} (ran : ∃ q, Trace (x memory) calls q) :
    ∃ q, Trace ((x >>= f) memory) calls q := by
  obtain ⟨q, first⟩ := ran
  exact ⟨_, first.bind fun out : Except ε α × ρ => ExceptT.bindCont f out.1 out.2⟩

theorem trace_ensured {x : Script S ρ ε α} (cleanup : Script S ρ ε Unit) {memory : ρ}
    {calls : List (Call S)} (ran : ∃ q, Trace (x memory) calls q) :
    ∃ q, Trace (ensuring x cleanup memory) calls q := by
  obtain ⟨q, first⟩ := ran
  exact ⟨_, first.bind _⟩

/-- A finished trace of a sequence is a finished trace of its first part and, unless
that raised, one of the rest. -/
theorem trace_bind {x : Script S ρ ε α} {f : α → Script S ρ ε β} {memory : ρ}
    {calls : List (Call S)} {v : Except ε β × ρ}
    (ran : Trace ((x >>= f) memory) calls (.done v)) :
    ∃ out memory' xs ys, calls = xs ++ ys ∧ Trace (x memory) xs (.done (out, memory')) ∧
      match out with
      | .ok a => Trace (f a memory') ys (.done v)
      | .error e => ys = [] ∧ v = (.error e, memory') := by
  have sequence : Trace ((x memory) >>= fun out => ExceptT.bindCont f out.1 out.2) calls (.done v) :=
    ran
  obtain ⟨⟨result, memory'⟩, xs, ys, split, first, rest⟩ := sequence.of_bind_done
  refine ⟨result, memory', xs, ys, split, first, ?_⟩
  cases result with
  | ok a => exact rest
  | error e =>
      cases rest
      exact ⟨rfl, rfl⟩

/-- A sequence that ends with a value has finished both parts with one. -/
theorem trace_bind_ok {x : Script S ρ ε α} {f : α → Script S ρ ε β} {memory last : ρ}
    {calls : List (Call S)} {b : β}
    (ran : Trace ((x >>= f) memory) calls (.done (.ok b, last))) :
    ∃ a memory' xs ys, calls = xs ++ ys ∧ Trace (x memory) xs (.done (.ok a, memory')) ∧
      Trace (f a memory') ys (.done (.ok b, last)) := by
  obtain ⟨out, memory', xs, ys, split, first, rest⟩ := Script.trace_bind ran
  cases out with
  | ok a => exact ⟨a, memory', xs, ys, split, first, rest⟩
  | error e => cases rest.2

/-- A body with a cleanup that ends with a value has finished both. -/
theorem trace_ensuring_ok {x : Script S ρ ε α} {cleanup : Script S ρ ε Unit} {memory last : ρ}
    {calls : List (Call S)} {a : α}
    (ran : Trace (ensuring x cleanup memory) calls (.done (.ok a, last))) :
    ∃ memory' xs ys, calls = xs ++ ys ∧ Trace (x memory) xs (.done (.ok a, memory')) ∧
      Trace (cleanup memory') ys (.done (.ok (), last)) := by
  obtain ⟨⟨out, memory'⟩, xs, rest, split, body, closing⟩ := ran.of_bind_done
  obtain ⟨⟨closed, memory''⟩, ys, zs, splitRest, cleaned, ended⟩ := closing.of_bind_done
  cases closed with
  | ok _ =>
      obtain ⟨none, same⟩ := ended.of_done
      cases same
      rw [none, List.append_nil] at splitRest
      exact ⟨memory', xs, ys, splitRest ▸ split, body, cleaned⟩
  | error e =>
      obtain ⟨_, same⟩ := ended.of_done
      cases same

theorem NeverRaises.trace_bind {x : Script S ρ ε α} {f : α → Script S ρ ε β} {memory : ρ}
    {calls : List (Call S)} {v : Except ε β × ρ} (never : NeverRaises x)
    (ran : Trace ((x >>= f) memory) calls (.done v)) :
    ∃ a memory' xs ys, calls = xs ++ ys ∧ Trace (x memory) xs (.done (.ok a, memory')) ∧
      Trace (f a memory') ys (.done v) := by
  obtain ⟨out, memory', xs, ys, split, first, rest⟩ := Script.trace_bind ran
  obtain ⟨a, same⟩ := (never memory).trace first
  subst same
  exact ⟨a, memory', xs, ys, split, first, rest⟩

theorem neverRaises_pure (a : α) : NeverRaises (pure a : Script S ρ ε α) := fun _ => ⟨a, rfl⟩

/-- Every value the script returns satisfies `good`. -/
def Returns (good : α → Prop) (x : Script S ρ ε α) : Prop :=
  ∀ memory, (x memory).Ends fun out => ∀ a, out.1 = .ok a → good a

theorem returns_pure {good : α → Prop} {a : α} (holds : good a) :
    Returns good (pure a : Script S ρ ε α) := by
  intro memory b same
  cases same
  exact holds

theorem returns_throw {good : α → Prop} (e : ε) : Returns good (throw e : Script S ρ ε α) := by
  intro memory a impossible
  cases impossible

theorem returns_any (x : Script S ρ ε α) : Returns (fun _ => True) x :=
  fun memory => (Program.ends_any (x memory)).mono fun _ _ _ _ => trivial

theorem Returns.bind {first : α → Prop} {good : β → Prop} {x : Script S ρ ε α}
    {f : α → Script S ρ ε β} (before : Returns first x) (rest : ∀ a, first a → Returns good (f a)) :
    Returns good (x >>= f) := by
  intro memory
  apply Program.Ends.bind (before memory)
  rintro ⟨out, memory'⟩ returned
  cases out with
  | ok a => exact rest a (returned a rfl) memory'
  | error e =>
      intro b impossible
      cases impossible

/-- What a script is followed by returns, whatever the script itself does. -/
theorem Returns.after {good : β → Prop} {x : Script S ρ ε α} {f : α → Script S ρ ε β}
    (rest : ∀ a, Returns good (f a)) : Returns good (x >>= f) :=
  (returns_any x).bind fun a _ => rest a

theorem wp_returns {m : Monitor S σ} {x : Script S ρ ε α} {post : Except ε α → ρ → σ → Prop}
    {good : α → Prop} {memory : ρ} {s : σ} (kept : wp m x post memory s) (returns : Returns good x) :
    wp m x (fun out memory' s' => post out memory' s' ∧ ∀ a, out = .ok a → good a) memory s :=
  Program.Ends.wp (returns memory) kept

/-- Whatever it is answered, the script ends with the memory it was given. -/
def LeavesMemory (x : Script S ρ ε α) : Prop := ∀ memory, (x memory).Ends fun out => out.2 = memory

theorem leavesMemory_pure (a : α) : LeavesMemory (pure a : Script S ρ ε α) := fun _ => rfl

theorem leavesMemory_throw (e : ε) : LeavesMemory (throw e : Script S ρ ε α) := fun _ => rfl

theorem leavesMemory_perform (op : S.Op) :
    LeavesMemory (perform op : Script S ρ ε (S.Resp op)) :=
  fun _ _ => rfl

theorem leavesMemory_get : LeavesMemory (get : Script S ρ ε ρ) := fun _ => rfl

theorem LeavesMemory.bind {x : Script S ρ ε α} {f : α → Script S ρ ε β} (first : LeavesMemory x)
    (rest : ∀ a, LeavesMemory (f a)) : LeavesMemory (x >>= f) := by
  intro memory
  apply Program.Ends.bind (first memory)
  rintro ⟨out, memory'⟩ left
  change memory' = memory at left
  subst left
  cases out with
  | ok a => exact rest a memory'
  | error e => exact rfl

/-- Two continuations that agree on the memory so far continue such a script alike. -/
theorem LeavesMemory.bind_congr {x : Script S ρ ε α} (left : LeavesMemory x)
    {f g : α → Script S ρ ε β} {memory : ρ} (same : ∀ a, f a memory = g a memory) :
    (x >>= f) memory = (x >>= g) memory := by
  change (x memory >>= fun out => ExceptT.bindCont f out.1 out.2) =
    (x memory >>= fun out => ExceptT.bindCont g out.1 out.2)
  apply (left memory).bind_congr
  rintro ⟨out, memory'⟩ left
  change memory' = memory at left
  subst left
  cases out with
  | ok a => exact same a
  | error e => rfl

/-- From where the invariant holds the script ends where it holds, raised or not. -/
def Keeps (m : Monitor S σ) (inv : ρ → σ → Prop) (x : Script S ρ ε α) : Prop :=
  ∀ memory s, inv memory s → Script.wp m x (fun _ memory' s' => inv memory' s') memory s

section Keeping

variable {m : Monitor S σ} {inv : ρ → σ → Prop}

theorem keeps_pure (a : α) : Keeps m inv (pure a : Script S ρ ε α) := fun _ _ holds => holds

theorem keeps_throw (e : ε) : Keeps m inv (throw e : Script S ρ ε α) := fun _ _ holds => holds

theorem keeps_get : Keeps m inv (get : Script S ρ ε ρ) := fun _ _ holds => holds

theorem keeps_modify {f : ρ → ρ} (kept : ∀ memory s, inv memory s → inv (f memory) s) :
    Keeps m inv (modify f : Script S ρ ε PUnit) := kept

theorem keeps_perform {op : S.Op}
    (allowed : ∀ memory s, inv memory s → m.allows s op)
    (kept : ∀ memory s r, inv memory s → m.admits s ⟨op, r⟩ → inv memory (m.observe s ⟨op, r⟩)) :
    Keeps m inv (perform op : Script S ρ ε (S.Resp op)) :=
  fun memory s holds => ⟨allowed memory s holds, fun r admitted => kept memory s r holds admitted⟩

theorem Keeps.bind {x : Script S ρ ε α} {f : α → Script S ρ ε β} (first : Keeps m inv x)
    (rest : ∀ a, Keeps m inv (f a)) : Keeps m inv (x >>= f) := by
  intro memory s holds
  rw [wp_bind]
  apply wp_mono (first memory s holds)
  intro out memory' s' kept
  cases out with
  | ok a => exact rest a memory' s' kept
  | error e => exact kept

/-- What reads the memory may use that the invariant holds of it. -/
theorem keeps_get_bind {f : ρ → Script S ρ ε α}
    (rest : ∀ memory s, inv memory s →
      Script.wp m (f memory) (fun _ memory' s' => inv memory' s') memory s) :
    Keeps m inv (get >>= f) := by
  intro memory s holds
  rw [wp_bind, wp_get, afterStep_ok]
  exact rest memory s holds

theorem Keeps.tryCatch {x : Script S ρ ε α} {handler : ε → Script S ρ ε α} (body : Keeps m inv x)
    (recovery : ∀ e, Keeps m inv (handler e)) : Keeps m inv (tryCatch x handler) := by
  intro memory s holds
  rw [wp_tryCatch]
  apply wp_mono (body memory s holds)
  intro out memory' s' kept
  cases out with
  | ok a => exact kept
  | error e => exact recovery e memory' s' kept

theorem Keeps.ensuring {x : Script S ρ ε α} {cleanup : Script S ρ ε Unit} (body : Keeps m inv x)
    (closing : Keeps m inv cleanup) : Keeps m inv (ensuring x cleanup) := by
  intro memory s holds
  rw [wp_ensuring]
  apply wp_mono (body memory s holds)
  intro out memory' s' kept
  apply wp_mono (closing memory' s' kept)
  intro closed memory'' s'' kept'
  cases closed <;> exact kept'

theorem keeps_ite {condition : Prop} [Decidable condition] {x y : Script S ρ ε α}
    (yes : Keeps m inv x) (no : Keeps m inv y) : Keeps m inv (if condition then x else y) := by
  by_cases holds : condition
  · rw [if_pos holds]
    exact yes
  · rw [if_neg holds]
    exact no

/-- An invariant of the monitor's state alone is kept where every operation used keeps it. -/
theorem Uses.keeps {x : Script S ρ ε α} (used : Uses ok x) {inv : σ → Prop}
    (allowed : ∀ s op, ok op → inv s → m.allows s op)
    (kept : ∀ s op r, ok op → inv s → inv (m.observe s ⟨op, r⟩)) :
    Keeps m (fun _ => inv) x :=
  fun _ _ holds => used.wp allowed kept holds

/-- What leaves the memory alone keeps an invariant that the operations it uses keep. -/
theorem LeavesMemory.keeps {x : Script S ρ ε α} (left : LeavesMemory x) (used : Uses ok x)
    (allowed : ∀ memory s op, ok op → inv memory s → m.allows s op)
    (kept : ∀ memory s op r, ok op → inv memory s → inv memory (m.observe s ⟨op, r⟩)) :
    Keeps m inv x := by
  intro memory s holds
  have along := @Uses.wp S ρ ε α σ ok x m used (inv memory) (allowed memory) (kept memory) memory s
    holds
  have ends := Program.Ends.wp (left memory) along
  apply Program.wp_mono ends
  rintro ⟨out, memory'⟩ s' ⟨still, same⟩
  change memory' = memory at same
  subst same
  exact still

end Keeping

end Script
