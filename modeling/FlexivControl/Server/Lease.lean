/-
The single-writer lease of the robot.

A lease has an owner and an expiry, refreshed by heartbeats and at the end of each
hold. It is only looked at when somebody asks, so an expired lease may still be
recorded; who holds it at a given time is `holder`.
-/

import FlexivControl.Core.Types

namespace FlexivControl

structure LeaseInfo (K : Type) where
  owner : String
  acquiredAt : K
  expiresAt : K

/-- `holds` counts the open requests of the owner; while there is one nothing expires. -/
structure Lease (K : Type) where
  ttl : K
  info : Option (LeaseInfo K) := none
  holds : Int := 0

variable {K : Type} [Scalar K]

def leaseError (message : String) : Exc := ⟨.leaseError, message⟩

namespace Lease

def expireIfStale (lease : Lease K) (now : K) : Lease K :=
  if 0 < lease.holds then lease
  else
    match lease.info with
    | none => lease
    | some info => if info.expiresAt < now then { lease with info := none } else lease

def owner (lease : Lease K) (now : K) : String × Lease K :=
  let lease := lease.expireIfStale now
  match lease.info with
  | none => ("", lease)
  | some info => (info.owner, lease)

def grant (lease : Lease K) (owner : String) (now : K) : Except Exc (LeaseInfo K) × Lease K :=
  let info : LeaseInfo K := ⟨owner, now, now + lease.ttl⟩
  (.ok info, { lease with info := some info })

def acquire (lease : Lease K) (owner : String) (force : Bool) (now : K) :
    Except Exc (LeaseInfo K) × Lease K :=
  if owner = "" then (.error (leaseError "lease owner must be a non-empty string"), lease)
  else
    let lease := lease.expireIfStale now
    match lease.info with
    | none => lease.grant owner now
    | some held =>
        if held.owner ≠ owner ∧ force = false then
          (.error (leaseError ("robot is leased by '" ++ held.owner ++
            "'; acquire with force=True to override")), lease)
        else lease.grant owner now

/-- Does not look at the expiry. -/
def heartbeat (lease : Lease K) (owner : String) (now : K) :
    Except Exc (LeaseInfo K) × Lease K :=
  match lease.info with
  | none => (.error (leaseError ("'" ++ owner ++ "' does not hold the lease")), lease)
  | some info =>
      if info.owner ≠ owner then
        (.error (leaseError ("'" ++ owner ++ "' does not hold the lease")), lease)
      else
        let info := { info with expiresAt := now + lease.ttl }
        (.ok info, { lease with info := some info })

/-- Without a lease there is nothing to release, which is no error. -/
def release (lease : Lease K) (owner : String) : Except Exc Unit × Lease K :=
  match lease.info with
  | none => (.ok (), lease)
  | some info =>
      if info.owner ≠ owner then
        (.error (leaseError ("'" ++ owner ++ "' cannot release lease held by '" ++ info.owner ++
          "'")), lease)
      else (.ok (), { lease with info := none })

/-- The check proper, after a stale lease has been dropped. -/
def verify (lease : Lease K) (owner : String) : Except Exc Unit :=
  match lease.info with
  | none => .error (leaseError "no lease held; call acquire_lease first")
  | some info =>
      if info.owner ≠ owner then
        .error (leaseError ("command from '" ++ owner ++ "' but lease is held by '" ++ info.owner ++
          "'"))
      else .ok ()

def check (lease : Lease K) (owner : String) (now : K) : Except Exc Unit × Lease K :=
  let lease := lease.expireIfStale now
  (lease.verify owner, lease)

/-- Entering `hold`: the check, then one more request in flight. -/
def holdEnter (lease : Lease K) (owner : String) (now : K) : Except Exc Unit × Lease K :=
  match lease.check owner now with
  | (.error e, lease) => (.error e, lease)
  | (.ok (), lease) => (.ok (), { lease with holds := lease.holds + 1 })

/-- Leaving `hold`: a full time to live for the owner, if it still is one. -/
def holdExit (lease : Lease K) (owner : String) (now : K) : Lease K :=
  let lease := { lease with holds := lease.holds - 1 }
  match lease.info with
  | none => lease
  | some info =>
      if info.owner = owner then
        { lease with info := some { info with expiresAt := now + lease.ttl } }
      else lease

/-! ### Who holds it -/

/-- The owner once a stale lease is dropped. -/
def holder (lease : Lease K) (now : K) : Option String :=
  (lease.expireIfStale now).info.map (·.owner)

def Lapsed (lease : Lease K) (now : K) : Prop :=
  lease.holds ≤ 0 ∧ ∃ info, lease.info = some info ∧ info.expiresAt < now

def RecordedFor (lease : Lease K) (owner : String) : Prop :=
  ∃ info, lease.info = some info ∧ info.owner = owner

theorem expireIfStale_of_current {lease : Lease K} {now : K} (current : ¬ lease.Lapsed now) :
    lease.expireIfStale now = lease := by
  unfold expireIfStale
  by_cases busy : 0 < lease.holds
  · rw [if_pos busy]
  · rw [if_neg busy]
    cases recorded : lease.info with
    | none => rfl
    | some info =>
        have fresh : ¬ info.expiresAt < now :=
          fun stale => current ⟨not_lt.mp busy, info, recorded, stale⟩
        exact if_neg fresh

theorem expireIfStale_of_lapsed {lease : Lease K} {now : K} (lapsed : lease.Lapsed now) :
    lease.expireIfStale now = { lease with info := none } := by
  obtain ⟨idle, info, recorded, stale⟩ := lapsed
  unfold expireIfStale
  rw [if_neg (not_lt.mpr idle), recorded]
  exact if_pos stale

theorem expireIfStale_current (lease : Lease K) (now : K) :
    ¬ (lease.expireIfStale now).Lapsed now := by
  by_cases lapsed : lease.Lapsed now
  · rw [expireIfStale_of_lapsed lapsed]
    intro again
    obtain ⟨_, _, impossible, _⟩ := again
    cases impossible
  · rw [expireIfStale_of_current lapsed]
    exact lapsed

theorem holder_eq_some {lease : Lease K} {now : K} {owner : String} :
    lease.holder now = some owner ↔ lease.RecordedFor owner ∧ ¬ lease.Lapsed now := by
  unfold holder
  by_cases lapsed : lease.Lapsed now
  · rw [expireIfStale_of_lapsed lapsed]
    constructor
    · intro impossible
      cases impossible
    · intro held
      exact absurd lapsed held.2
  · rw [expireIfStale_of_current lapsed, Option.map_eq_some_iff]
    exact (and_iff_left lapsed).symm

omit [Scalar K] in
theorem verify_ok {lease : Lease K} {owner : String} :
    lease.verify owner = .ok () ↔ lease.RecordedFor owner := by
  unfold verify RecordedFor
  cases lease.info with
  | none =>
      constructor
      · intro impossible
        cases impossible
      · intro impossible
        obtain ⟨info, missing, _⟩ := impossible
        cases missing
  | some info =>
      dsimp only
      by_cases same : info.owner = owner
      · rw [if_neg (not_not.mpr same)]
        exact ⟨fun _ => ⟨info, rfl, same⟩, fun _ => rfl⟩
      · rw [if_pos same]
        constructor
        · intro impossible
          cases impossible
        · intro owned
          obtain ⟨_, found, owned⟩ := owned
          cases found
          exact absurd owned same

theorem check_ok {lease : Lease K} {owner : String} {now : K}
    (passed : (lease.check owner now).1 = .ok ()) :
    (lease.check owner now).2.holder now = some owner := by
  rw [holder_eq_some]
  exact ⟨verify_ok.mp passed, expireIfStale_current lease now⟩

theorem holdEnter_ok {lease : Lease K} {owner : String} {now : K}
    (passed : (lease.holdEnter owner now).1 = .ok ()) :
    (lease.holdEnter owner now).2.holder now = some owner := by
  unfold holdEnter at passed ⊢
  have verified := @check_ok _ _ lease owner now
  generalize lease.check owner now = checked at passed verified ⊢
  obtain ⟨result, lease'⟩ := checked
  cases result with
  | error e => cases passed
  | ok a =>
      obtain ⟨recorded, current⟩ := holder_eq_some.mp (verified rfl)
      refine holder_eq_some.mpr ⟨recorded, ?_⟩
      intro lapsed
      obtain ⟨idle, stale⟩ := lapsed
      have before : lease'.holds + 1 ≤ 0 := idle
      have idleBefore : lease'.holds ≤ 0 := by omega
      exact current ⟨idleBefore, stale⟩

section Keeps

variable {lease : Lease K} {now : K} {owner : String}

theorem owner_keeps (current : ¬ lease.Lapsed now) : (lease.owner now).2 = lease := by
  unfold Lease.owner
  rw [expireIfStale_of_current current]
  dsimp only
  cases lease.info <;> rfl

theorem check_keeps (current : ¬ lease.Lapsed now) (other : String) :
    (lease.check other now).2 = lease := expireIfStale_of_current current

theorem acquire_keeps (recorded : lease.RecordedFor owner) (current : ¬ lease.Lapsed now)
    (other : String) : (lease.acquire other false now).2.RecordedFor owner := by
  obtain ⟨info, found, owned⟩ := recorded
  unfold acquire
  by_cases empty : other = ""
  · rw [if_pos empty]
    exact ⟨info, found, owned⟩
  · rw [if_neg empty, expireIfStale_of_current current]
    dsimp only
    rw [found]
    dsimp only
    by_cases another : info.owner ≠ other ∧ false = false
    · rw [if_pos another]
      exact ⟨info, found, owned⟩
    · rw [if_neg another]
      have same : other = owner := by
        by_contra different
        exact another ⟨fun equal => different (equal.symm.trans owned), rfl⟩
      exact ⟨_, rfl, same⟩

theorem heartbeat_keeps (recorded : lease.RecordedFor owner) (other : String) :
    (lease.heartbeat other now).2.RecordedFor owner := by
  obtain ⟨info, found, owned⟩ := recorded
  unfold heartbeat
  rw [found]
  dsimp only
  by_cases another : info.owner ≠ other
  · rw [if_pos another]
    exact ⟨info, found, owned⟩
  · rw [if_neg another]
    exact ⟨_, rfl, owned⟩

omit [Scalar K] in
theorem release_keeps (recorded : lease.RecordedFor owner) {other : String}
    (others : (lease.release other).1 = .ok () → other ≠ owner) :
    (lease.release other).2.RecordedFor owner := by
  obtain ⟨info, found, owned⟩ := recorded
  unfold release at others ⊢
  rw [found] at others ⊢
  dsimp only at others ⊢
  by_cases another : info.owner ≠ other
  · rw [if_pos another]
    exact ⟨info, found, owned⟩
  · rw [if_neg another] at others
    exact absurd ((not_not.mp another).symm.trans owned) (others rfl)

theorem holdEnter_keeps (recorded : lease.RecordedFor owner) (current : ¬ lease.Lapsed now)
    (other : String) : (lease.holdEnter other now).2.RecordedFor owner := by
  unfold holdEnter
  have same := check_keeps current other
  generalize lease.check other now = checked at same ⊢
  obtain ⟨result, lease'⟩ := checked
  cases same
  cases result with
  | ok a => exact recorded
  | error e => exact recorded

theorem holdExit_keeps (recorded : lease.RecordedFor owner) (other : String) :
    (lease.holdExit other now).RecordedFor owner := by
  obtain ⟨info, found, owned⟩ := recorded
  unfold holdExit
  dsimp only
  rw [found]
  dsimp only
  by_cases another : info.owner = other
  · rw [if_pos another]
    exact ⟨_, rfl, owned⟩
  · rw [if_neg another]
    exact ⟨info, rfl, owned⟩

end Keeps

end Lease

end FlexivControl
