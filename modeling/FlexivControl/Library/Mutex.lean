/-
A lock among the threads of a pool.

Each thread keeps a discipline of its own: it takes the lock only when it does not have
it, and gives it back, or does what only a holder may do, only when it has it. The
machine gives the lock to one holder at a time. Together the two agree on who holds it.
-/

import FlexivControl.Library.Pool

namespace Pool

/-- Which calls take and free the lock, which operations may take it, and which need it. -/
structure Lock (S : Signature) where
  mayTake : S.Op → Prop
  needs : S.Op → Prop
  takes : Call S → Bool
  frees : Call S → Bool
  taken : ∀ c, takes c = true → mayTake c.op
  freed : ∀ c, frees c = true → needs c.op

namespace Lock

variable {S : Signature} (lock : Lock S)

/-- Whether the thread holds the lock after the call. -/
def after (held : Bool) (c : Call S) : Bool :=
  if lock.takes c then true else if lock.frees c then false else held

def discipline (trusts : Call S → Prop) : Monitor S Bool where
  observe := lock.after
  admits _ c := trusts c
  allows held op := (lock.mayTake op → held = false) ∧ (lock.needs op → held = true)

/-- Whether a thread that has made these calls holds the lock. -/
def heldAfter (calls : List (Call S)) : Bool := calls.foldl lock.after false

theorem heldAfter_snoc (xs : List (Call S)) (c : Call S) :
    lock.heldAfter (xs ++ [c]) = lock.after (lock.heldAfter xs) c := by
  rw [heldAfter, List.foldl_append]
  rfl

theorem admitted_of_trusts {trusts : Call S → Prop} (calls : List (Call S)) :
    ∀ held, (∀ c ∈ calls, trusts c) → (lock.discipline trusts).Admitted held calls := by
  induction calls with
  | nil => exact fun _ _ => trivial
  | cons c rest ih =>
      intro held trusted
      exact ⟨trusted c List.mem_cons_self,
        ih _ fun c inRest => trusted c (List.mem_cons_of_mem _ inRest)⟩

/-- The machine gives the lock to one holder at a time; threads hold it under their tag. -/
structure Guards {ι ε σ H : Type} (lock : Lock S) (m : Machine S ι ε σ) (tag : ι → H)
    (holder : σ → Option H) : Prop where
  distinct : Function.Injective tag
  take : ∀ s t c, lock.takes c = true → m.enabled s (.call t c) →
    holder s = none ∧ holder (m.next s (.call t c)) = some (tag t)
  free : ∀ s t c, lock.takes c = false → lock.frees c = true →
    holder (m.next s (.call t c)) = none
  keep : ∀ s t c, lock.takes c = false → lock.frees c = false →
    holder (m.next s (.call t c)) = holder s
  env : ∀ s move, m.enabled s (.env move) → ∀ t,
    holder (m.next s (.env move)) = some (tag t) ↔ holder s = some (tag t)

variable {lock} {ι ε σ H α : Type} [DecidableEq ι] {m : Machine S ι ε σ} {tag : ι → H}
  {holder : σ → Option H} {programs : ι → Program S α} {start : σ} {trusts : ι → Call S → Prop}

/-- A disciplined thread's next operation keeps to its discipline. -/
theorem obeys {post : α → Bool → Prop} {p : Program S α} {believes : Call S → Prop}
    (disciplined : p.wp (lock.discipline believes) post false) {calls : List (Call S)}
    (trusted : ∀ c ∈ calls, believes c) {op : S.Op} {next : S.Resp op → Program S α}
    (ran : Trace p calls (.call op next)) :
    (lock.mayTake op → lock.heldAfter calls = false) ∧
      (lock.needs op → lock.heldAfter calls = true) :=
  (Program.wp_sound disciplined ran (lock.admitted_of_trusts calls false trusted)).2.1

/-- In every run of disciplined threads, a thread holds the lock exactly when its own
calls say so; in particular no two do. -/
theorem Guards.holder_iff (guards : lock.Guards m tag holder)
    (free : ∀ t, holder start ≠ some (tag t)) {post : α → Bool → Prop}
    (disciplined : ∀ t, (programs t).wp (lock.discipline (trusts t)) post false)
    {events : List (Event S ι ε)} (run : Run m programs start events)
    (trusted : ∀ t, ∀ c ∈ callsOf t events, trusts t c) (t : ι) :
    holder (m.run start events) = some (tag t) ↔ lock.heldAfter (callsOf t events) = true := by
  induction events using List.reverseRecOn generalizing t with
  | nil =>
      constructor
      · intro held
        exact absurd held (free t)
      · intro impossible
        cases impossible
  | append_singleton pre e ih =>
      have ih := ih run.initial fun u c before => trusted u c (by
        rw [callsOf_append]
        exact List.mem_append_left _ before)
      have enabled : m.enabled (m.run start pre) e := run.valid.enabled_at
      rw [m.run_append, callsOf_append]
      cases e with
      | env move =>
          rw [callsOf_env, callsOf_nil, List.append_nil]
          exact (guards.env _ move enabled t).trans (ih t)
      | call u c =>
          change holder (m.next (m.run start pre) (.call u c)) = _ ↔ _
          have obeyed : (lock.mayTake c.op → lock.heldAfter (callsOf u pre) = false) ∧
              (lock.needs c.op → lock.heldAfter (callsOf u pre) = true) := by
            obtain ⟨q, ran⟩ := run.traced u
            rw [callsOf_append, callsOf_own, callsOf_nil] at ran
            obtain ⟨mid, before, now⟩ := ran.split
            cases now with
            | cons _ =>
                exact obeys (disciplined u) (fun c member => trusted u c (by
                  rw [callsOf_append]
                  exact List.mem_append_left _ member)) before
          have unheld (nobody : holder (m.run start pre) = none ∨
              holder (m.run start pre) = some (tag u)) (other : u ≠ t) :
              ¬ lock.heldAfter (callsOf t pre) = true := by
            rw [← ih t]
            rcases nobody with none | mine
            · rw [none]
              exact fun impossible => by cases impossible
            · rw [mine]
              exact fun same => other (guards.distinct (Option.some.inj same))
          cases takes : lock.takes c with
          | true =>
              obtain ⟨nobody, taken⟩ := guards.take _ u c takes enabled
              rw [taken]
              by_cases own : u = t
              · subst own
                rw [callsOf_own, callsOf_nil, lock.heldAfter_snoc, after, if_pos takes]
                exact ⟨fun _ => rfl, fun _ => rfl⟩
              · rw [callsOf_other t own, callsOf_nil, List.append_nil]
                constructor
                · intro same
                  exact absurd (guards.distinct (Option.some.inj same)) own
                · intro held
                  exact absurd held (unheld (Or.inl nobody) own)
          | false =>
              cases frees : lock.frees c with
              | true =>
                  have mine := (ih u).mpr (obeyed.2 (lock.freed c frees))
                  rw [guards.free _ u c takes frees]
                  by_cases own : u = t
                  · subst own
                    rw [callsOf_own, callsOf_nil, lock.heldAfter_snoc, after, takes, frees]
                    exact ⟨fun impossible => (by cases impossible),
                      fun impossible => (by cases impossible)⟩
                  · rw [callsOf_other t own, callsOf_nil, List.append_nil]
                    constructor
                    · intro impossible
                      cases impossible
                    · intro held
                      exact absurd held (unheld (Or.inr mine) own)
              | false =>
                  rw [guards.keep _ u c takes frees]
                  by_cases own : u = t
                  · subst own
                    rw [callsOf_own, callsOf_nil, lock.heldAfter_snoc, after, takes, frees]
                    exact ih u
                  · rw [callsOf_other t own, callsOf_nil, List.append_nil]
                    exact ih t

end Lock

end Pool
