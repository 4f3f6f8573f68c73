/-
Operations that take time.

A thread that announces its long operations starts each of them in one step and finishes
it in another; other threads act in between. What the operations do, they do as they
finish, so a run of such threads settles to a run in which they take no time.
-/

import FlexivControl.Library.Mutex

namespace Pool

inductive Stage (O : Type) where
  | start (op : O)
  | finish (op : O)

def staged (S : Signature) : Signature where
  Op := Stage S.Op
  Resp
    | .start _ => Unit
    | .finish op => S.Resp op

section Programs

variable {S : Signature} {α : Type} (long : S.Op → Bool)

def announce : Program S α → Program (staged S) α
  | .done a => .done a
  | .call op next =>
      if long op then
        .call (S := staged S) (.start op) fun _ =>
          .call (S := staged S) (.finish op) fun r => announce (next r)
      else .call (S := staged S) (.finish op) fun r => announce (next r)

def finishedCall : Call (staged S) → Option (Call S)
  | ⟨.start _, _⟩ => none
  | ⟨.finish op, r⟩ => some ⟨op, r⟩

def finished (calls : List (Call (staged S))) : List (Call S) := calls.filterMap finishedCall

/-- The operation that has been started last and has not been finished. -/
def underway (calls : List (Call (staged S))) : Option S.Op :=
  match calls.getLast? with
  | some ⟨.start op, _⟩ => some op
  | _ => none

theorem underway_cons {c : Call (staged S)} {calls : List (Call (staged S))}
    (more : calls ≠ []) : underway (c :: calls) = underway calls := by
  cases calls with
  | nil => exact absurd rfl more
  | cons d rest => rw [underway, underway, List.getLast?_cons_cons]

variable {long}

/-- A trace of the announcing program finishes a trace of the program, whose next
operation is the one underway. -/
theorem trace_announce {p : Program S α} {calls : List (Call (staged S))}
    {q : Program (staged S) α} (ran : Trace (announce long p) calls q) :
    ∃ q', Trace p (finished calls) q' ∧
      ∀ op, underway calls = some op → ∃ next, q' = .call op next := by
  induction p generalizing calls with
  | done a =>
      rw [ran.nil_of_done]
      exact ⟨.done a, .nil _, fun op none => (by cases none)⟩
  | call op next ih =>
      have after {r : S.Resp op} {rest : List (Call (staged S))}
          (later : Trace (announce long (next r)) rest q) :
          ∃ q', Trace (.call op next) (⟨op, r⟩ :: finished rest) q' ∧
            ∀ op', underway ((⟨.finish op, r⟩ : Call (staged S)) :: rest) = some op' →
              ∃ next', q' = .call op' next' := by
        obtain ⟨q', ran', mid⟩ := ih r later
        refine ⟨q', .cons ran', ?_⟩
        intro op' within
        cases rest with
        | nil => cases within
        | cons c rest =>
            rw [underway_cons (List.cons_ne_nil c rest)] at within
            exact mid op' within
      unfold announce at ran
      split at ran
      · rcases ran.nil_or_call with none | ⟨_, rest, same, later⟩
        · rw [none]
          exact ⟨_, .nil _, fun op none => (by cases none)⟩
        · subst same
          rcases later.nil_or_call with none | ⟨r, rest', same, later'⟩
          · subst none
            refine ⟨_, .nil _, ?_⟩
            intro op' within
            cases within
            exact ⟨next, rfl⟩
          · subst same
            obtain ⟨q', ran', mid⟩ := after later'
            refine ⟨q', ran', ?_⟩
            intro op' within
            rw [underway_cons (List.cons_ne_nil _ _)] at within
            exact mid op' within
      · rcases ran.nil_or_call with none | ⟨r, rest, same, later⟩
        · rw [none]
          exact ⟨_, .nil _, fun op none => (by cases none)⟩
        · subst same
          exact after later

end Programs

section Runs

variable {S : Signature} {ι ε σ α : Type}

def Machine.staged (m : Machine S ι ε σ) : Machine (Pool.staged S) ι ε σ where
  enabled
    | _, .call _ ⟨.start _, _⟩ => True
    | s, .call t ⟨.finish op, r⟩ => m.enabled s (.call t ⟨op, r⟩)
    | s, .env move => m.enabled s (.env move)
  next
    | s, .call _ ⟨.start _, _⟩ => s
    | s, .call t ⟨.finish op, r⟩ => m.next s (.call t ⟨op, r⟩)
    | s, .env move => m.next s (.env move)

def settledEvent : Event (staged S) ι ε → Option (Event S ι ε)
  | .call _ ⟨.start _, _⟩ => none
  | .call t ⟨.finish op, r⟩ => some (.call t ⟨op, r⟩)
  | .env move => some (.env move)

def settled (events : List (Event (staged S) ι ε)) : List (Event S ι ε) :=
  events.filterMap settledEvent

theorem staged_run (m : Machine S ι ε σ) (s : σ) (events : List (Event (staged S) ι ε)) :
    m.staged.run s events = m.run s (settled events) := by
  induction events generalizing s with
  | nil => rfl
  | cons e rest ih =>
      rw [Machine.run_cons, ih]
      cases e with
      | env move => rfl
      | call t c =>
          obtain ⟨stage, r⟩ := c
          cases stage <;> rfl

theorem staged_valid {m : Machine S ι ε σ} {s : σ} {events : List (Event (staged S) ι ε)}
    (valid : m.staged.Valid s events) : m.Valid s (settled events) := by
  induction events generalizing s with
  | nil => trivial
  | cons e rest ih =>
      cases e with
      | env move => exact ⟨valid.1, ih valid.2⟩
      | call t c =>
          obtain ⟨stage, r⟩ := c
          cases stage with
          | start op => exact ih valid.2
          | finish op => exact ⟨valid.1, ih valid.2⟩

variable [DecidableEq ι]

theorem callsOf_settled (t : ι) (events : List (Event (staged S) ι ε)) :
    callsOf t (settled events) = finished (callsOf t events) := by
  induction events with
  | nil => rfl
  | cons e rest ih =>
      cases e with
      | env move => exact ih
      | call u c =>
          obtain ⟨stage, r⟩ := c
          by_cases own : u = t
          · subst own
            rw [callsOf_own]
            cases stage with
            | start op => exact ih
            | finish op =>
                change callsOf u (.call u ⟨op, r⟩ :: settled rest) = ⟨op, r⟩ :: _
                rw [callsOf_own]
                exact congrArg _ ih
          · rw [callsOf_other t own]
            cases stage with
            | start op => exact ih
            | finish op =>
                change callsOf t (.call u ⟨op, r⟩ :: settled rest) = _
                rw [callsOf_other t own, ih]

variable {m : Machine S ι ε σ} {programs : ι → Program S α} {long : S.Op → Bool} {start : σ}
  {events : List (Event (staged S) ι ε)}

theorem Run.settles (run : Run m.staged (fun t => announce long (programs t)) start events) :
    Run m programs start (settled events) where
  valid := staged_valid run.valid
  traced := by
    intro t
    obtain ⟨q, ran⟩ := run.traced t
    obtain ⟨q', ran', _⟩ := trace_announce ran
    rw [callsOf_settled]
    exact ⟨q', ran'⟩

namespace Lock

variable {lock : Lock S} {H : Type} {tag : ι → H} {holder : σ → Option H}
  {trusts : ι → Call S → Prop}

/-- Of disciplined threads, the one inside an operation that needs the lock has it. -/
theorem Guards.inside_holds (guards : lock.Guards m tag holder)
    (free : ∀ t, holder start ≠ some (tag t)) {post : α → Bool → Prop}
    (disciplined : ∀ t, (programs t).wp (lock.discipline (trusts t)) post false)
    (run : Run m.staged (fun t => announce long (programs t)) start events)
    (trusted : ∀ t, ∀ c ∈ finished (callsOf t events), trusts t c) {t : ι} {op : S.Op}
    (inside : underway (callsOf t events) = some op) (needs : lock.needs op) :
    holder (m.staged.run start events) = some (tag t) := by
  have believed (u : ι) : ∀ c ∈ callsOf u (settled events), trusts u c := by
    rw [callsOf_settled]
    exact trusted u
  obtain ⟨q, ran⟩ := run.traced t
  obtain ⟨q', ran', mid⟩ := trace_announce ran
  obtain ⟨next, same⟩ := mid op inside
  rw [same] at ran'
  have held := (obeys (disciplined t) (trusted t) ran').2 needs
  rw [staged_run, guards.holder_iff free disciplined run.settles believed t, callsOf_settled]
  exact held

theorem Guards.inside_unique (guards : lock.Guards m tag holder)
    (free : ∀ t, holder start ≠ some (tag t)) {post : α → Bool → Prop}
    (disciplined : ∀ t, (programs t).wp (lock.discipline (trusts t)) post false)
    (run : Run m.staged (fun t => announce long (programs t)) start events)
    (trusted : ∀ t, ∀ c ∈ finished (callsOf t events), trusts t c) {t u : ι} {op op' : S.Op}
    (inside : underway (callsOf t events) = some op) (needs : lock.needs op)
    (inside' : underway (callsOf u events) = some op') (needs' : lock.needs op') : t = u := by
  have mine := guards.inside_holds free disciplined run trusted inside needs
  have yours := guards.inside_holds free disciplined run trusted inside' needs'
  exact guards.distinct (Option.some.inj (mine.symm.trans yours))

end Lock

end Runs

end Pool
