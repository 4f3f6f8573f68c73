/-
Loops at a fixed rate: a deadline that moves on by one period a round, and a wait for it.

The clock never goes back and a wait lasts at least as long as it was asked for. A loop that
keeps to its deadlines then acts no more often, counted from its start, than the period says.
-/

import FlexivControl.Library.Monitor
import Mathlib.Algebra.Order.Field.Basic
import Mathlib.Algebra.Order.BigOperators.Group.List
import Mathlib.Tactic.Linarith
import Mathlib.Tactic.Ring

/-- What the calls of a program say about time, and which of its operations are to be kept
to the rate. -/
structure Timepiece (S : Signature) (K : Type) where
  reads : Call S → Option K
  waits : Call S → Option K
  acts : S.Op → Bool

namespace Timepiece

section History

variable {S : Signature} {K : Type} [Add K] [Zero K]

/-- It is at least this late after the call. -/
def after (clock : Timepiece S K) (now : Option K) (c : Call S) : Option K :=
  match clock.reads c with
  | some t => some t
  | none => now.map (· + (clock.waits c).getD 0)

def latest (clock : Timepiece S K) (calls : List (Call S)) : Option K :=
  calls.foldl clock.after none

/-- The first reading, from which the time is counted. -/
def start {K : Type} (clock : Timepiece S K) (calls : List (Call S)) : Option K :=
  (calls.filterMap clock.reads).head?

def actions {K : Type} (clock : Timepiece S K) (calls : List (Call S)) : Nat :=
  calls.countP fun c => clock.acts c.op

theorem latest_snoc (clock : Timepiece S K) (calls : List (Call S)) (c : Call S) :
    clock.latest (calls ++ [c]) = clock.after (clock.latest calls) c := by
  rw [latest, List.foldl_append]
  rfl

theorem start_snoc {K : Type} {clock : Timepiece S K} {calls : List (Call S)} {t : K}
    (known : clock.start calls = some t) (c : Call S) : clock.start (calls ++ [c]) = some t := by
  rw [start] at known
  rw [start, List.filterMap_append, List.head?_append, known, Option.some_or]

theorem actions_snoc {K : Type} (clock : Timepiece S K) (calls : List (Call S)) (c : Call S) :
    clock.actions (calls ++ [c]) = clock.actions calls + (if clock.acts c.op then 1 else 0) := by
  rw [actions, List.countP_append, List.countP_singleton]
  rfl

end History

section Rate

variable {S : Signature} {K : Type} [Field K] [LinearOrder K] {clock : Timepiece S K}
  {period begun deadline now t : K} {rounds acted : Nat} {calls : List (Call S)} {c : Call S}

/-- As many actions as there have been do not come sooner than the period says. -/
def OnPace (clock : Timepiece S K) (period : K) (calls : List (Call S)) : Prop :=
  ∃ begun now, clock.start calls = some begun ∧ clock.latest calls = some now ∧
    clock.actions calls * period ≤ now - begun

/-- No action comes sooner, on a clock that does not go back. -/
def paced (clock : Timepiece S K) (period : K) : Monitor S (List (Call S)) where
  observe calls c := calls ++ [c]
  admits calls c := ∀ t ∈ clock.reads c, ∀ now ∈ clock.latest calls, now ≤ t
  allows calls op := clock.acts op = true → clock.OnPace period calls

theorem run_paced (seen calls : List (Call S)) :
    (clock.paced period).run seen calls = seen ++ calls :=
  Monitor.run_history seen calls

/-- As far as the clock is read, it does not go back. -/
def HonestFrom (clock : Timepiece S K) : Option K → List (Call S) → Prop
  | _, [] => True
  | now, c :: calls =>
      (∀ t ∈ clock.reads c, ∀ earlier ∈ now, earlier ≤ t) ∧
        HonestFrom clock (clock.after now c) calls

def Honest (clock : Timepiece S K) (calls : List (Call S)) : Prop := clock.HonestFrom none calls

theorem Honest.admitted (honest : clock.Honest calls) : (clock.paced period).Admitted [] calls := by
  have along (rest : List (Call S)) : ∀ seen, clock.HonestFrom (clock.latest seen) rest →
      (clock.paced period).Admitted seen rest := by
    induction rest with
    | nil => exact fun _ _ => trivial
    | cons c rest ih =>
        intro seen holds
        refine ⟨holds.1, ih (seen ++ [c]) ?_⟩
        rw [latest_snoc]
        exact holds.2
  exact along calls [] honest

/-- A loop after so many rounds, of which it has acted in at most `acted`: its deadline is that
many periods after its start, and has been waited for. -/
structure OnSchedule (clock : Timepiece S K) (period : K) (calls : List (Call S))
    (begun deadline now : K) (rounds acted : Nat) : Prop where
  started : clock.start calls = some begun
  time : clock.latest calls = some now
  far : begun + rounds * period ≤ deadline
  reached : deadline ≤ now
  counted : clock.actions calls ≤ acted

/-- The first reading, before anything has been done. -/
theorem onSchedule_first (unread : calls.filterMap clock.reads = [])
    (unacted : clock.actions calls = 0) (told : clock.reads c = some t)
    (idle : clock.acts c.op = false) :
    clock.OnSchedule period (calls ++ [c]) t t t 0 0 where
  started := by
    rw [start, List.filterMap_append, unread, List.nil_append, List.filterMap_cons_some told]
    rfl
  time := by
    rw [latest_snoc, after, told]
  far := by
    rw [Nat.cast_zero, zero_mul, add_zero]
  reached := le_rfl
  counted := by
    rw [actions_snoc, unacted, idle]
    exact le_rfl

/-- A call that says nothing of the time. -/
theorem OnSchedule.passing
    (schedule : clock.OnSchedule period calls begun deadline now rounds acted)
    (unread : clock.reads c = none) (unwaited : clock.waits c = none) :
    clock.OnSchedule period (calls ++ [c]) begun deadline now rounds
      (acted + if clock.acts c.op then 1 else 0) where
  started := start_snoc schedule.started c
  time := by
    rw [latest_snoc, schedule.time, after, unread, unwaited]
    exact congrArg some (add_zero now)
  far := schedule.far
  reached := schedule.reached
  counted := by
    rw [actions_snoc]
    exact Nat.add_le_add_right schedule.counted _

theorem OnSchedule.quiet (schedule : clock.OnSchedule period calls begun deadline now rounds acted)
    (unread : clock.reads c = none) (unwaited : clock.waits c = none)
    (idle : clock.acts c.op = false) :
    clock.OnSchedule period (calls ++ [c]) begun deadline now rounds acted := by
  have passed := schedule.passing unread unwaited
  rw [idle] at passed
  exact passed

/-- Reading the clock. -/
theorem OnSchedule.read (schedule : clock.OnSchedule period calls begun deadline now rounds acted)
    (told : clock.reads c = some t) (later : now ≤ t) (idle : clock.acts c.op = false) :
    clock.OnSchedule period (calls ++ [c]) begun deadline t rounds acted where
  started := start_snoc schedule.started c
  time := by
    rw [latest_snoc, schedule.time, after, told]
  far := schedule.far
  reached := schedule.reached.trans later
  counted := by
    rw [actions_snoc, idle]
    exact schedule.counted

variable [IsStrictOrderedRing K]

theorem OnSchedule.onPace (schedule : clock.OnSchedule period calls begun deadline now rounds acted)
    (positive : 0 ≤ period) (enough : acted ≤ rounds) : clock.OnPace period calls := by
  refine ⟨begun, now, schedule.started, schedule.time, ?_⟩
  have fewer : (clock.actions calls : K) * period ≤ rounds * period := by
    apply mul_le_mul_of_nonneg_right _ positive
    exact_mod_cast schedule.counted.trans enough
  linarith [schedule.far, schedule.reached]

/-- The next round has begun once a deadline one period later has been reached. -/
theorem OnSchedule.next (schedule : clock.OnSchedule period calls begun deadline now rounds acted)
    {deadline' : K} (later : deadline + period ≤ deadline') (reached : deadline' ≤ now) :
    clock.OnSchedule period calls begun deadline' now (rounds + 1) acted where
  started := schedule.started
  time := schedule.time
  far := by
    have far := schedule.far
    push_cast
    linarith
  reached := reached
  counted := schedule.counted

/-- Waiting for the next deadline. -/
theorem OnSchedule.wait (schedule : clock.OnSchedule period calls begun deadline now rounds acted)
    (unread : clock.reads c = none) (waited : clock.waits c = some (deadline + period - now))
    (idle : clock.acts c.op = false) (early : 0 ≤ deadline + period - now) :
    clock.OnSchedule period (calls ++ [c]) begun (deadline + period) (deadline + period)
      (rounds + 1) acted := by
  have slept : clock.OnSchedule period (calls ++ [c]) begun deadline (deadline + period) rounds
      acted := by
    refine ⟨start_snoc schedule.started c, ?_, schedule.far, ?_, ?_⟩
    · rw [latest_snoc, schedule.time, after, unread, waited]
      exact congrArg some (add_sub_cancel now (deadline + period))
    · linarith [schedule.reached]
    · rw [actions_snoc, idle]
      exact schedule.counted
  exact slept.next le_rfl le_rfl

/-- What comes to at most `most` each time comes to at most as much in all as the time there
has been, and one period more, allows at that rate. -/
theorem sum_le_of_pace (least : clock.actions calls * period ≤ now - begun) {α : Type}
    {amounts : List α} {f : α → K} {rate : K} (bounded : ∀ a ∈ amounts, f a ≤ rate * period)
    (unsigned : 0 ≤ rate) (few : amounts.length ≤ clock.actions calls + 1) (positive : 0 ≤ period) :
    (amounts.map f).sum ≤ rate * (now - begun + period) := by
  have all : (amounts.map f).sum ≤ amounts.length * (rate * period) := by
    have sums := List.sum_le_card_nsmul (amounts.map f) (rate * period) (by
      intro x member
      obtain ⟨a, within, same⟩ := List.mem_map.mp member
      exact same ▸ bounded a within)
    rwa [List.length_map, nsmul_eq_mul] at sums
  have few' : (amounts.length : K) ≤ clock.actions calls + 1 := by exact_mod_cast few
  calc (amounts.map f).sum
      ≤ amounts.length * (rate * period) := all
    _ ≤ (clock.actions calls + 1) * (rate * period) :=
        mul_le_mul_of_nonneg_right few' (mul_nonneg unsigned positive)
    _ = rate * (clock.actions calls * period + period) := by ring
    _ ≤ rate * (now - begun + period) := by
        apply mul_le_mul_of_nonneg_left _ unsigned
        linarith

end Rate

end Timepiece
