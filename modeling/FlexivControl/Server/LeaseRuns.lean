/-
Sequences of calls on one lease.

Every method is one atomic step. What a run leaves behind follows from two numbers of its
history: how many holds each owner has open, and when each owner last refreshed.
-/

import FlexivControl.Library.Ledger
import FlexivControl.Server.Lease

namespace FlexivControl

variable {K : Type} [Scalar K]

inductive LeaseCall where
  | acquire (owner : String) (force : Bool)
  | heartbeat (owner : String)
  | release (owner : String)
  | check (owner : String)
  | owner
  | info
  | holdEnter (owner : String)
  | holdExit (owner : String)
  deriving DecidableEq, Repr

/-- A call with the time it was made at and whether it returned or raised. -/
structure LeaseEvent (K : Type) where
  now : K
  call : LeaseCall
  returned : Bool

namespace Lease

/-- The query `info()`: like the owner, after a stale lease has been dropped. -/
def readInfo (lease : Lease K) (now : K) : Option (LeaseInfo K) × Lease K :=
  ((lease.expireIfStale now).info, lease.expireIfStale now)

def outcome (lease : Lease K) (now : K) : LeaseCall → Except Exc Unit × Lease K
  | .acquire owner force =>
      ((lease.acquire owner force now).1.map fun _ => (), (lease.acquire owner force now).2)
  | .heartbeat owner =>
      ((lease.heartbeat owner now).1.map fun _ => (), (lease.heartbeat owner now).2)
  | .release owner => lease.release owner
  | .check owner => lease.check owner now
  | .owner => (.ok (), (lease.owner now).2)
  | .info => (.ok (), (lease.readInfo now).2)
  | .holdEnter owner => lease.holdEnter owner now
  | .holdExit owner => (.ok (), lease.holdExit owner now)

def after (lease : Lease K) (e : LeaseEvent K) : Lease K := (lease.outcome e.now e.call).2

/-- A lease nobody has acquired yet. -/
def new (ttl : K) : Lease K := { ttl := ttl }

def run (lease : Lease K) (events : List (LeaseEvent K)) : Lease K := events.foldl after lease

@[simp] theorem run_snoc (lease : Lease K) (events : List (LeaseEvent K)) (e : LeaseEvent K) :
    lease.run (events ++ [e]) = (lease.run events).after e := by
  rw [run, List.foldl_append]
  rfl

end Lease

namespace LeaseEvent

def holdChange (e : LeaseEvent K) : Option (String × Int) :=
  match e.call with
  | .holdEnter owner => if e.returned then some (owner, 1) else none
  | .holdExit owner => some (owner, -1)
  | _ => none

def refreshes (owner : String) (e : LeaseEvent K) : Bool :=
  match e.call with
  | .acquire other _ | .heartbeat other => other == owner && e.returned
  | .holdExit other => other == owner
  | _ => false

end LeaseEvent

def holdChanges (events : List (LeaseEvent K)) : List (String × Int) :=
  events.filterMap LeaseEvent.holdChange

/-- Holds entered less holds left. -/
def openHolds (owner : String) (events : List (LeaseEvent K)) : Int :=
  Ledger.outstanding owner (holdChanges events)

def lastRefresh (owner : String) (events : List (LeaseEvent K)) : Option K :=
  events.foldl (fun last e => if e.refreshes owner then some e.now else last) none

omit [Scalar K] in
theorem holdChanges_snoc (events : List (LeaseEvent K)) (e : LeaseEvent K) :
    holdChanges (events ++ [e]) = holdChanges events ++ e.holdChange.toList := by
  rw [holdChanges, List.filterMap_append, List.filterMap_cons]
  cases e.holdChange <;> rfl

omit [Scalar K] in
theorem lastRefresh_snoc (owner : String) (events : List (LeaseEvent K)) (e : LeaseEvent K) :
    lastRefresh owner (events ++ [e]) =
      if e.refreshes owner then some e.now else lastRefresh owner events := by
  rw [lastRefresh, List.foldl_append]
  rfl

/-- The runs of a new lease: every call returns or raises as the lease has it, and only
a hold that is open is left. -/
inductive LeaseRun (ttl : K) : List (LeaseEvent K) → Prop where
  | start : LeaseRun ttl []
  | call {events : List (LeaseEvent K)} {e : LeaseEvent K} (run : LeaseRun ttl events)
      (answered : e.returned = true ↔
        (((Lease.new ttl).run events).outcome e.now e.call).1 = .ok ())
      (entered : ∀ owner, e.call = .holdExit owner → 0 < openHolds owner events) :
      LeaseRun ttl (events ++ [e])

namespace LeaseRun

variable {ttl : K} {events pre post : List (LeaseEvent K)} {e : LeaseEvent K}

theorem last (run : LeaseRun ttl (pre ++ [e])) :
    LeaseRun ttl pre ∧
      (e.returned = true ↔ (((Lease.new ttl).run pre).outcome e.now e.call).1 = .ok ()) := by
  generalize whole : pre ++ [e] = events at run
  cases run with
  | start => exact absurd whole (List.append_ne_nil_of_right_ne_nil pre (List.cons_ne_nil e []))
  | call run answered entered =>
      obtain ⟨same, last⟩ := List.append_inj' whole rfl
      cases last
      subst same
      exact ⟨run, answered⟩

theorem initial (run : LeaseRun ttl (pre ++ post)) : LeaseRun ttl pre := by
  induction post using List.reverseRecOn with
  | nil => rwa [List.append_nil] at run
  | append_singleton post e ih =>
      rw [← List.append_assoc] at run
      exact ih run.last.1

theorem solvent (run : LeaseRun ttl events) (owner : String) : 0 ≤ openHolds owner events := by
  induction run with
  | start => exact le_refl 0
  | @call events e run answered entered ih =>
      have changed : openHolds owner (events ++ [e]) =
          openHolds owner events + Ledger.outstanding owner e.holdChange.toList := by
        rw [openHolds, holdChanges_snoc, Ledger.outstanding_append]
        rfl
      rw [changed, LeaseEvent.holdChange]
      cases called : e.call with
      | holdEnter other =>
          cases e.returned with
          | false => simpa using ih
          | true =>
              by_cases same : other = owner
              · simp [Ledger.outstanding, same]
                omega
              · simpa [Ledger.outstanding, same] using ih
      | holdExit other =>
          by_cases same : other = owner
          · have open_hold := entered owner (same ▸ called)
            simp [Ledger.outstanding, same]
            omega
          · simpa [Ledger.outstanding, same] using ih
      | _ => simpa using ih

end LeaseRun

/-! ### What the lease remembers of it -/

/-- The counter is what all owners have open together, and the recorded owner's expiry
is one time to live after its last refresh. -/
structure Lease.Remembers (lease : Lease K) (ttl : K) (events : List (LeaseEvent K)) : Prop where
  sameTtl : lease.ttl = ttl
  holds : lease.holds = Ledger.counter (holdChanges events)
  expiry : ∀ info, lease.info = some info →
    ∃ last, lastRefresh info.owner events = some last ∧ info.expiresAt = last + ttl

namespace Lease

/-- What one call may do to the record: drop it, keep it, or refresh its owner. -/
structure Steps (lease lease' : Lease K) (e : LeaseEvent K) : Prop where
  sameTtl : lease'.ttl = lease.ttl
  counted : lease'.holds = lease.holds + Ledger.counter e.holdChange.toList
  record : ∀ info, lease'.info = some info →
    (e.refreshes info.owner = true ∧ info.expiresAt = e.now + lease.ttl) ∨
      (e.refreshes info.owner = false ∧ lease.info = some info)

theorem Remembers.step {lease lease' : Lease K} {ttl : K} {events : List (LeaseEvent K)}
    {e : LeaseEvent K} (remembers : lease.Remembers ttl events) (steps : lease.Steps lease' e) :
    lease'.Remembers ttl (events ++ [e]) where
  sameTtl := steps.sameTtl.trans remembers.sameTtl
  holds := by rw [steps.counted, remembers.holds, holdChanges_snoc, Ledger.counter_append]
  expiry := by
    intro info found
    rw [lastRefresh_snoc]
    rcases steps.record info found with ⟨refreshed, expires⟩ | ⟨unrefreshed, kept⟩
    · rw [if_pos refreshed]
      exact ⟨e.now, rfl, by rw [expires, remembers.sameTtl]⟩
    · rw [unrefreshed, if_neg Bool.false_ne_true]
      exact remembers.expiry info kept

section Stale

variable (lease : Lease K) (now : K)

@[simp] theorem expireIfStale_ttl : (lease.expireIfStale now).ttl = lease.ttl := by
  by_cases lapsed : lease.Lapsed now
  · rw [expireIfStale_of_lapsed lapsed]
  · rw [expireIfStale_of_current lapsed]

@[simp] theorem expireIfStale_holds : (lease.expireIfStale now).holds = lease.holds := by
  by_cases lapsed : lease.Lapsed now
  · rw [expireIfStale_of_lapsed lapsed]
  · rw [expireIfStale_of_current lapsed]

theorem expireIfStale_info {info : LeaseInfo K}
    (found : (lease.expireIfStale now).info = some info) : lease.info = some info := by
  by_cases lapsed : lease.Lapsed now
  · rw [expireIfStale_of_lapsed lapsed] at found
    cases found
  · rwa [expireIfStale_of_current lapsed] at found

end Stale

variable {lease : Lease K} {e : LeaseEvent K}

theorem steps_expireIfStale (no_hold : e.holdChange = none)
    (no_refresh : ∀ owner, e.refreshes owner = false) :
    lease.Steps (lease.expireIfStale e.now) e where
  sameTtl := expireIfStale_ttl lease e.now
  counted := by
    rw [expireIfStale_holds, no_hold]
    exact (add_zero _).symm
  record := fun info found => Or.inr ⟨no_refresh info.owner, expireIfStale_info lease e.now found⟩

theorem steps_refl (no_hold : e.holdChange = none)
    (no_refresh : ∀ owner, e.refreshes owner = false) : lease.Steps lease e where
  sameTtl := rfl
  counted := by
    rw [no_hold]
    exact (add_zero _).symm
  record := fun info found => Or.inr ⟨no_refresh info.owner, found⟩

theorem steps_refreshed {owner : String} {lease' : Lease K} {info : LeaseInfo K}
    (same_ttl : lease'.ttl = lease.ttl) (same_holds : lease'.holds = lease.holds)
    (no_hold : e.holdChange = none) (recorded : lease'.info = some info)
    (owned : info.owner = owner) (expires : info.expiresAt = e.now + lease.ttl)
    (refreshed : e.refreshes owner = true) : lease.Steps lease' e where
  sameTtl := same_ttl
  counted := by
    rw [same_holds, no_hold]
    exact (add_zero _).symm
  record := by
    intro info' found
    cases recorded.symm.trans found
    exact Or.inl ⟨owned ▸ refreshed, expires⟩

theorem acquire_granted {owner : String} {force : Bool} {now : K} (named : owner ≠ "")
    (open_to : ∀ info, (lease.expireIfStale now).info = some info →
      info.owner = owner ∨ force = true) :
    lease.acquire owner force now = (lease.expireIfStale now).grant owner now := by
  rw [acquire, if_neg named]
  dsimp only
  cases found : (lease.expireIfStale now).info with
  | none => rfl
  | some info =>
      apply if_neg
      intro refused
      rcases open_to info found with same | forced
      · exact refused.1 same
      · rw [forced] at refused
        cases refused.2

theorem acquire_refused {owner : String} {now : K} {info : LeaseInfo K} (named : owner ≠ "")
    (found : (lease.expireIfStale now).info = some info) (another : info.owner ≠ owner) :
    lease.acquire owner false now = (.error (leaseError ("robot is leased by '" ++ info.owner ++
      "'; acquire with force=True to override")), lease.expireIfStale now) := by
  rw [acquire, if_neg named]
  dsimp only
  rw [found]
  exact if_pos ⟨another, rfl⟩

theorem acquire_cases (lease : Lease K) (owner : String) (force : Bool) (now : K) :
    (∃ error, (lease.acquire owner force now).1 = .error error ∧
      ((lease.acquire owner force now).2 = lease ∨
        (lease.acquire owner force now).2 = lease.expireIfStale now)) ∨
      lease.acquire owner force now = (lease.expireIfStale now).grant owner now := by
  by_cases named : owner = ""
  · have raised : lease.acquire owner force now =
        (.error (leaseError "lease owner must be a non-empty string"), lease) := if_pos named
    rw [raised]
    exact Or.inl ⟨_, rfl, Or.inl rfl⟩
  · by_cases open_to : ∀ info, (lease.expireIfStale now).info = some info →
        info.owner = owner ∨ force = true
    · exact Or.inr (acquire_granted named open_to)
    · push Not at open_to
      obtain ⟨info, found, another, unforced⟩ := open_to
      rw [Bool.eq_false_iff.mpr unforced, acquire_refused named found another]
      exact Or.inl ⟨_, rfl, Or.inr rfl⟩

theorem steps_acquire {owner : String} {force : Bool} (called : e.call = .acquire owner force)
    (answered : e.returned = true ↔ (lease.outcome e.now e.call).1 = .ok ()) :
    lease.Steps (lease.after e) e := by
  have no_hold : e.holdChange = none := by rw [LeaseEvent.holdChange, called]
  have refreshes_eq (other : String) : e.refreshes other = (owner == other && e.returned) := by
    rw [LeaseEvent.refreshes, called]
  have after_eq : lease.after e = (lease.acquire owner force e.now).2 := by
    rw [after, called]
    rfl
  rw [called] at answered
  rw [after_eq]
  rcases acquire_cases lease owner force e.now with ⟨error, raised, left⟩ | granted
  · have no_refresh (other : String) : e.refreshes other = false := by
      have failed : ¬ e.returned = true := by
        rw [answered, outcome, raised]
        intro impossible
        cases impossible
      rw [refreshes_eq, Bool.eq_false_iff.mpr failed, Bool.and_false]
    rcases left with same | stale
    · rw [same]
      exact steps_refl no_hold no_refresh
    · rw [stale]
      exact steps_expireIfStale no_hold no_refresh
  · have returned : e.returned = true := by
      rw [answered, outcome, granted]
      rfl
    have same_ttl : ((lease.expireIfStale e.now).grant owner e.now).2.ttl = lease.ttl :=
      expireIfStale_ttl lease e.now
    have same_holds : ((lease.expireIfStale e.now).grant owner e.now).2.holds = lease.holds :=
      expireIfStale_holds lease e.now
    have refreshed : e.refreshes owner = true := by
      rw [refreshes_eq, returned, beq_self_eq_true, Bool.and_true]
    rw [granted]
    apply steps_refreshed same_ttl same_holds no_hold rfl rfl _ refreshed
    exact congrArg (e.now + ·) (expireIfStale_ttl lease e.now)

theorem steps_heartbeat {owner : String} (called : e.call = .heartbeat owner)
    (answered : e.returned = true ↔ (lease.outcome e.now e.call).1 = .ok ()) :
    lease.Steps (lease.after e) e := by
  have no_hold : e.holdChange = none := by rw [LeaseEvent.holdChange, called]
  have refreshes_eq (other : String) : e.refreshes other = (owner == other && e.returned) := by
    rw [LeaseEvent.refreshes, called]
  have after_eq : lease.after e = (lease.heartbeat owner e.now).2 := by
    rw [after, called]
    rfl
  rw [called] at answered
  rw [after_eq]
  by_cases recorded : lease.RecordedFor owner
  · obtain ⟨info, found, same⟩ := recorded
    have returned : e.returned = true := by
      rw [answered, outcome, heartbeat, found]
      dsimp only
      rw [if_neg (not_not.mpr same)]
      rfl
    have refreshed : e.refreshes info.owner = true := by
      rw [refreshes_eq, returned, same, beq_self_eq_true, Bool.and_true]
    rw [heartbeat, found]
    dsimp only
    rw [if_neg (not_not.mpr same)]
    exact steps_refreshed rfl rfl no_hold rfl rfl rfl refreshed
  · have raised : lease.heartbeat owner e.now =
        (.error (leaseError ("'" ++ owner ++ "' does not hold the lease")), lease) := by
      rw [heartbeat]
      cases found : lease.info with
      | none => rfl
      | some info => exact if_pos fun same => recorded ⟨info, found, same⟩
    have failed : ¬ e.returned = true := by
      rw [answered, outcome, raised]
      intro impossible
      cases impossible
    have no_refresh (other : String) : e.refreshes other = false := by
      rw [refreshes_eq, Bool.eq_false_iff.mpr failed, Bool.and_false]
    rw [raised]
    exact steps_refl no_hold no_refresh

theorem steps_release {owner : String} (called : e.call = .release owner) :
    lease.Steps (lease.after e) e := by
  have no_hold : e.holdChange = none := by rw [LeaseEvent.holdChange, called]
  have no_refresh (other : String) : e.refreshes other = false := by
    rw [LeaseEvent.refreshes, called]
  have after_eq : lease.after e = (lease.release owner).2 := by
    rw [after, called]
    rfl
  rw [after_eq, release]
  cases found : lease.info with
  | none => exact steps_refl no_hold no_refresh
  | some info =>
      dsimp only
      by_cases another : info.owner ≠ owner
      · rw [if_pos another]
        exact steps_refl no_hold no_refresh
      · rw [if_neg another]
        refine ⟨rfl, ?_, ?_⟩
        · rw [no_hold]
          exact (add_zero _).symm
        · intro info' impossible
          cases impossible

theorem steps_holdEnter {owner : String} (called : e.call = .holdEnter owner)
    (answered : e.returned = true ↔ (lease.outcome e.now e.call).1 = .ok ()) :
    lease.Steps (lease.after e) e := by
  have no_refresh (other : String) : e.refreshes other = false := by
    rw [LeaseEvent.refreshes, called]
  have after_eq : lease.after e = (lease.holdEnter owner e.now).2 := by
    rw [after, called]
    rfl
  have hold_eq : e.holdChange = if e.returned then some (owner, 1) else none := by
    rw [LeaseEvent.holdChange, called]
  rw [called] at answered
  rw [after_eq]
  cases checked : (lease.expireIfStale e.now).verify owner with
  | error error =>
      have refused : lease.holdEnter owner e.now = (.error error, lease.expireIfStale e.now) := by
        rw [holdEnter, check, checked]
      have failed : ¬ e.returned = true := by
        rw [answered, outcome, refused]
        intro impossible
        cases impossible
      rw [refused]
      exact steps_expireIfStale (hold_eq.trans (if_neg failed)) no_refresh
  | ok a =>
      have entered : lease.holdEnter owner e.now = (.ok (), { lease.expireIfStale e.now with
          holds := (lease.expireIfStale e.now).holds + 1 }) := by
        rw [holdEnter, check, checked]
      have returned : e.returned = true := by rw [answered, outcome, entered]
      rw [entered]
      refine ⟨expireIfStale_ttl lease e.now, ?_, ?_⟩
      · rw [hold_eq, if_pos returned]
        exact congrArg (· + 1) (expireIfStale_holds lease e.now)
      · intro info found
        exact Or.inr ⟨no_refresh info.owner, expireIfStale_info lease e.now found⟩

theorem steps_holdExit {owner : String} (called : e.call = .holdExit owner) :
    lease.Steps (lease.after e) e := by
  have refreshes_eq (other : String) : e.refreshes other = (owner == other) := by
    rw [LeaseEvent.refreshes, called]
  have counted : lease.holds - 1 = lease.holds + Ledger.counter e.holdChange.toList := by
    rw [LeaseEvent.holdChange, called]
    rfl
  have after_eq : lease.after e = lease.holdExit owner e.now := by
    rw [after, called]
    rfl
  rw [after_eq, holdExit]
  dsimp only
  cases found : lease.info with
  | none => exact ⟨rfl, counted, fun info impossible => (by cases impossible)⟩
  | some info =>
      dsimp only
      by_cases same : info.owner = owner
      · rw [if_pos same]
        refine ⟨rfl, counted, fun info' recorded => Or.inl ?_⟩
        cases recorded
        exact ⟨by rw [refreshes_eq, same, beq_self_eq_true], rfl⟩
      · rw [if_neg same]
        refine ⟨rfl, counted, fun info' recorded => Or.inr ?_⟩
        cases recorded
        have other : (owner == info.owner) = false := beq_eq_false_iff_ne.mpr (Ne.symm same)
        exact ⟨(refreshes_eq _).trans other, found⟩

theorem steps_after (answered : e.returned = true ↔ (lease.outcome e.now e.call).1 = .ok ()) :
    lease.Steps (lease.after e) e := by
  cases called : e.call with
  | acquire owner force => exact steps_acquire called answered
  | heartbeat owner => exact steps_heartbeat called answered
  | release owner => exact steps_release called
  | holdEnter owner => exact steps_holdEnter called answered
  | holdExit owner => exact steps_holdExit called
  | check owner =>
      rw [after, called]
      apply steps_expireIfStale
      · rw [LeaseEvent.holdChange, called]
      · intro other
        rw [LeaseEvent.refreshes, called]
  | owner =>
      have stale : lease.after e = lease.expireIfStale e.now := by
        rw [after, called, outcome, Lease.owner]
        dsimp only
        split <;> rfl
      rw [stale]
      apply steps_expireIfStale
      · rw [LeaseEvent.holdChange, called]
      · intro other
        rw [LeaseEvent.refreshes, called]
  | info =>
      rw [after, called]
      apply steps_expireIfStale
      · rw [LeaseEvent.holdChange, called]
      · intro other
        rw [LeaseEvent.refreshes, called]

end Lease

theorem LeaseRun.remembers {ttl : K} {events : List (LeaseEvent K)} (run : LeaseRun ttl events) :
    ((Lease.new ttl).run events).Remembers ttl events := by
  induction run with
  | start =>
      refine ⟨rfl, rfl, ?_⟩
      intro info impossible
      cases impossible
  | call run answered entered ih =>
      rw [Lease.run_snoc]
      exact ih.step (Lease.steps_after answered)

end FlexivControl
