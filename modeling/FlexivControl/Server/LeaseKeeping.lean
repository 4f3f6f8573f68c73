/-
Who keeps the lease, and when it is free again.

A live holder, one with a hold open or a refresh within the time to live, is never
displaced without force. The counter of open holds is one for all owners, so a lease whose
owner is gone is free again exactly when no displaced owner has a hold open.
-/

import FlexivControl.Server.LeaseRuns

namespace FlexivControl

/-- The owner has a hold open or has refreshed within the time to live. -/
def LiveAt (ttl : ℝ) (owner : String) (events : List (LeaseEvent ℝ)) (now : ℝ) : Prop :=
  0 < openHolds owner events ∨ ∃ last, lastRefresh owner events = some last ∧ now - last ≤ ttl

namespace LeaseRun

variable {ttl : ℝ} {events : List (LeaseEvent ℝ)} {owner : String} {now : ℝ}

theorem not_lapsed (run : LeaseRun ttl events)
    (recorded : ((Lease.new ttl).run events).RecordedFor owner)
    (live : LiveAt ttl owner events now) : ¬ ((Lease.new ttl).run events).Lapsed now := by
  intro lapsed
  obtain ⟨idle, info, found, stale⟩ := lapsed
  obtain ⟨_, found', owned⟩ := recorded
  cases found.symm.trans found'
  have remembers := run.remembers
  rcases live with working | ⟨last, refreshed, recent⟩
  · have below : openHolds owner events ≤ Ledger.counter (holdChanges events) :=
      Ledger.outstanding_le_counter run.solvent owner
    rw [remembers.holds] at idle
    omega
  · obtain ⟨last', refreshed', expires⟩ := remembers.expiry info found
    rw [owned, refreshed] at refreshed'
    cases refreshed'
    rw [expires] at stale
    linarith

end LeaseRun

namespace Lease

variable {K : Type} [Scalar K] {lease : Lease K} {e : LeaseEvent K} {owner : String}

/-- No call but the owner's own release takes a lease that is not stale, unless forced. -/
theorem after_keeps (recorded : lease.RecordedFor owner) (current : ¬ lease.Lapsed e.now)
    (unforced : ∀ other, e.call ≠ .acquire other true)
    (unreleased : ¬ (e.call = .release owner ∧ (lease.outcome e.now e.call).1 = .ok ())) :
    (lease.after e).RecordedFor owner := by
  rw [after]
  cases called : e.call with
  | acquire other force =>
      cases force with
      | true => exact absurd called (unforced other)
      | false => exact acquire_keeps recorded current other
  | heartbeat other => exact heartbeat_keeps recorded other
  | release other =>
      apply release_keeps recorded
      intro released same
      apply unreleased
      rw [called, same]
      exact ⟨rfl, same ▸ released⟩
  | check other =>
      change (lease.check other e.now).2.RecordedFor owner
      rw [check_keeps current]
      exact recorded
  | owner =>
      change (lease.owner e.now).2.RecordedFor owner
      rw [owner_keeps current]
      exact recorded
  | info =>
      change (lease.expireIfStale e.now).RecordedFor owner
      rw [expireIfStale_of_current current]
      exact recorded
  | holdEnter other => exact holdEnter_keeps recorded current other
  | holdExit other => exact holdExit_keeps recorded other

theorem after_acquire_recorded {force : Bool} (called : e.call = .acquire owner force)
    (returned : (lease.outcome e.now e.call).1 = .ok ()) : (lease.after e).RecordedFor owner := by
  rw [after, called]
  rw [called] at returned
  change (lease.acquire owner force e.now).2.RecordedFor owner
  rcases acquire_cases lease owner force e.now with ⟨error, raised, _⟩ | granted
  · rw [outcome, raised] at returned
    cases returned
  · rw [granted]
    exact ⟨_, rfl, rfl⟩

/-- What it means for the owner that a lease in its name is not stale. -/
theorem secured {now : K} (recorded : lease.RecordedFor owner) (current : ¬ lease.Lapsed now) :
    (lease.owner now).1 = owner ∧ (lease.check owner now).1 = .ok () ∧
      (∃ info, (lease.heartbeat owner now).1 = .ok info) ∧
        ∀ other, other ≠ owner →
          ∃ error, (lease.acquire other false now).1 = .error error ∧ error.kind = .leaseError := by
  obtain ⟨info, found, owned⟩ := recorded
  have current_info : (lease.expireIfStale now).info = some info := by
    rw [expireIfStale_of_current current, found]
  refine ⟨?_, ?_, ?_, ?_⟩
  · rw [Lease.owner, current_info]
    exact owned
  · exact verify_ok.mpr ⟨info, current_info, owned⟩
  · rw [heartbeat, found]
    dsimp only
    rw [if_neg (not_not.mpr owned)]
    exact ⟨_, rfl⟩
  · intro other another
    by_cases named : other = ""
    · rw [acquire, if_pos named]
      exact ⟨_, rfl, rfl⟩
    · rw [acquire_refused named current_info fun same => another (same.symm.trans owned)]
      exact ⟨_, rfl, rfl⟩

end Lease

/-- A holder that acquired the lease and has been live at every call since without
releasing it is its owner, and nobody else can acquire it without force. -/
theorem live_holder_kept {ttl : ℝ} {before since : List (LeaseEvent ℝ)}
    {acquired : LeaseEvent ℝ} {owner : String} {force : Bool}
    (run : LeaseRun ttl (before ++ acquired :: since))
    (called : acquired.call = .acquire owner force) (returned : acquired.returned = true)
    (unforced : ∀ e ∈ since, ∀ other, e.call ≠ .acquire other true)
    (unreleased : ∀ e ∈ since, ¬ (e.call = .release owner ∧ e.returned = true))
    (live : ∀ pre e post, since = pre ++ e :: post →
      LiveAt ttl owner (before ++ acquired :: pre) e.now)
    {now : ℝ} (live_now : LiveAt ttl owner (before ++ acquired :: since) now) :
    let lease := (Lease.new ttl).run (before ++ acquired :: since)
    (lease.owner now).1 = owner ∧ (lease.check owner now).1 = .ok () ∧
      (∃ info, (lease.heartbeat owner now).1 = .ok info) ∧
        ∀ other, other ≠ owner →
          ∃ error, (lease.acquire other false now).1 = .error error ∧
            error.kind = .leaseError := by
  have recorded : ((Lease.new ttl).run (before ++ acquired :: since)).RecordedFor owner := by
    clear live_now
    induction since using List.reverseRecOn with
    | nil =>
        rw [Lease.run_snoc]
        apply Lease.after_acquire_recorded called
        exact run.last.2.mp returned
    | append_singleton pre e ih =>
        rw [← List.cons_append, ← List.append_assoc] at run
        have kept : ((Lease.new ttl).run (before ++ acquired :: pre)).RecordedFor owner := by
          apply ih run.initial
          · exact fun d member => unforced d (List.mem_append_left _ member)
          · exact fun d member => unreleased d (List.mem_append_left _ member)
          · intro earlier d later split
            apply live earlier d (later ++ [e])
            rw [split, List.append_assoc, List.cons_append]
        have last : e ∈ pre ++ [e] := List.mem_append_right _ List.mem_cons_self
        rw [← List.cons_append, ← List.append_assoc, Lease.run_snoc]
        apply Lease.after_keeps kept
        · exact run.initial.not_lapsed kept (live pre e [] rfl)
        · exact unforced e last
        · intro released
          exact unreleased e last ⟨released.1, run.last.2.mpr released.2⟩
  exact Lease.secured recorded (run.not_lapsed recorded live_now)

noncomputable def workedThenIdle : List (LeaseEvent ℝ) :=
  [⟨0, .acquire "A" false, true⟩, ⟨1, .holdEnter "A", true⟩, ⟨4, .acquire "B" false, false⟩,
    ⟨6, .holdExit "A", true⟩, ⟨7, .info, true⟩]

theorem workedThenIdle_run : LeaseRun 2 workedThenIdle := by
  refine .call (.call (.call (.call (.call .start ?_ ?acquire) ?_ ?enter) ?_ ?refused) ?_ ?exit)
    ?_ ?query
  case exit =>
    intro owner called
    cases called
    decide +kernel
  case acquire | enter | refused | query =>
    intro owner impossible
    cases impossible
  all_goals norm_num +decide [Lease.new, Lease.run, Lease.after, Lease.outcome, Lease.acquire,
    Lease.grant, Lease.expireIfStale, Lease.holdEnter, Lease.holdExit, Lease.check, Lease.verify,
    Lease.readInfo, Except.map]

theorem live_holder_kept_working :
    (((Lease.new 2).run workedThenIdle).owner 8).1 = "A" ∧
      (((Lease.new 2).run workedThenIdle).check "A" 8).1 = .ok () ∧
        (∃ info, (((Lease.new 2).run workedThenIdle).heartbeat "A" 8).1 = .ok info) ∧
          ∀ other, other ≠ "A" → ∃ error,
            (((Lease.new 2).run workedThenIdle).acquire other false 8).1 = .error error ∧
              error.kind = .leaseError := by
  have run : LeaseRun 2 ([] ++ ⟨0, .acquire "A" false, true⟩ :: workedThenIdle.tail) :=
    workedThenIdle_run
  apply live_holder_kept run rfl rfl
  · simp [workedThenIdle]
  · simp [workedThenIdle]
  · intro pre e post split
    rcases pre with _ | ⟨_, _ | ⟨_, _ | ⟨_, _ | ⟨_, rest⟩⟩⟩⟩
    · cases split
      exact Or.inr ⟨0, by simp [lastRefresh, LeaseEvent.refreshes], by norm_num⟩
    · cases split
      exact Or.inl (by decide +kernel)
    · cases split
      exact Or.inl (by decide +kernel)
    · cases split
      exact Or.inr ⟨6, by simp [lastRefresh, LeaseEvent.refreshes], by norm_num⟩
    · cases rest <;> cases split
  · exact Or.inr ⟨6, by simp [lastRefresh, LeaseEvent.refreshes, workedThenIdle], by norm_num⟩

/-! ### When it is free again -/

section Free

variable {ttl : ℝ} {events : List (LeaseEvent ℝ)} {owner : String} {now last : ℝ}

theorem LeaseRun.lapsed_iff (run : LeaseRun ttl events)
    (recorded : ((Lease.new ttl).run events).RecordedFor owner)
    (refreshed : lastRefresh owner events = some last) (late : ttl < now - last) :
    ((Lease.new ttl).run events).Lapsed now ↔ ∀ other, openHolds other events = 0 := by
  have remembers := run.remembers
  have idle_iff := Ledger.counter_nonpos_iff run.solvent
  constructor
  · intro lapsed
    rw [← remembers.holds] at idle_iff
    exact idle_iff.mp lapsed.1
  · intro nobody
    obtain ⟨info, found, owned⟩ := recorded
    obtain ⟨last', refreshed', expires⟩ := remembers.expiry info found
    rw [owned, refreshed] at refreshed'
    cases refreshed'
    refine ⟨?_, info, found, ?_⟩
    · rw [remembers.holds]
      exact idle_iff.mpr nobody
    · rw [expires]
      linarith

/-- Once the owner has nothing open and has been silent for longer than the time to live,
everybody can acquire the lease if and only if nobody else has a hold open. -/
theorem silent_owner_displaced_iff (run : LeaseRun ttl events)
    (recorded : ((Lease.new ttl).run events).RecordedFor owner)
    (idle : openHolds owner events = 0) (refreshed : lastRefresh owner events = some last)
    (late : ttl < now - last) :
    (∀ other, other ≠ "" →
        ∃ info, (((Lease.new ttl).run events).acquire other false now).1 = .ok info) ↔
      ∀ other, other ≠ owner → openHolds other events = 0 := by
  have lapsed_iff := run.lapsed_iff recorded refreshed late
  constructor
  · intro acquirable
    have free : ((Lease.new ttl).run events).Lapsed now := by
      by_contra current
      obtain ⟨info, found, owned⟩ := recorded
      have another : ∃ other : String, other ≠ "" ∧ info.owner ≠ other := by
        by_cases a : info.owner = "A"
        · exact ⟨"B", by decide, by rw [a]; decide⟩
        · exact ⟨"A", by decide, a⟩
      obtain ⟨other, named, different⟩ := another
      obtain ⟨granted, acquired⟩ := acquirable other named
      have current_info :
          (((Lease.new ttl).run events).expireIfStale now).info = some info := by
        rw [Lease.expireIfStale_of_current current, found]
      rw [Lease.acquire_refused named current_info different] at acquired
      cases acquired
    intro other _
    exact lapsed_iff.mp free other
  · intro nobody other named
    have free : ((Lease.new ttl).run events).Lapsed now := by
      apply lapsed_iff.mpr
      intro anyone
      by_cases same : anyone = owner
      · rw [same]
        exact idle
      · exact nobody anyone same
    rw [Lease.acquire_granted named]
    · exact ⟨_, rfl⟩
    · intro info impossible
      rw [Lease.expireIfStale_of_lapsed free] at impossible
      cases impossible

end Free

/-- Three seconds after the owner's work is over the other one is no longer refused. -/
theorem silent_owner_displaced_iff_worked :
    ∃ info, (((Lease.new 2).run workedThenIdle).acquire "B" false 9).1 = .ok info := by
  have recorded : ((Lease.new 2).run workedThenIdle).RecordedFor "A" :=
    ⟨⟨"A", 0, 6 + 2⟩, by norm_num +decide [workedThenIdle, Lease.new, Lease.run, Lease.after,
      Lease.outcome, Lease.acquire, Lease.grant, Lease.expireIfStale, Lease.holdEnter,
      Lease.holdExit, Lease.check, Lease.verify, Lease.readInfo], rfl⟩
  have refreshed : lastRefresh "A" workedThenIdle = some 6 := by
    simp [lastRefresh, LeaseEvent.refreshes, workedThenIdle]
  have late : (2 : ℝ) < 9 - 6 := by norm_num
  have idle : openHolds "A" workedThenIdle = 0 := by decide +kernel
  apply (silent_owner_displaced_iff workedThenIdle_run recorded idle refreshed late).mpr
  · intro other different
    have changes : holdChanges workedThenIdle = [("A", 1), ("A", -1)] := rfl
    rw [openHolds, changes]
    simp [Ledger.outstanding, different.symm]
  · decide

noncomputable def displacedAtWork : List (LeaseEvent ℝ) :=
  [⟨0, .acquire "A" false, true⟩, ⟨0, .holdEnter "A", true⟩, ⟨1, .acquire "B" true, true⟩]

/-- B has been silent for three seconds with nothing open, but C cannot acquire the
lease: A's hold keeps B's lease from expiring. -/
theorem displaced_hold_blocks_expiry :
    LeaseRun 2 displacedAtWork ∧ (displacedAtWork.map LeaseEvent.now ++ [4]).Pairwise (· ≤ ·) ∧
      ((Lease.new 2).run displacedAtWork).RecordedFor "B" ∧ openHolds "B" displacedAtWork = 0 ∧
        lastRefresh "B" displacedAtWork = some 1 ∧ 2 < (4 : ℝ) - 1 ∧
          ¬ ∃ info, (((Lease.new 2).run displacedAtWork).acquire "C" false 4).1 = .ok info := by
  have run : LeaseRun 2 displacedAtWork := by
    refine .call (.call (.call .start ?_ ?acquire) ?_ ?enter) ?_ ?force
    case acquire | enter | force =>
      intro owner impossible
      cases impossible
    all_goals norm_num +decide [Lease.new, Lease.run, Lease.after, Lease.outcome, Lease.acquire,
      Lease.grant, Lease.expireIfStale, Lease.holdEnter, Lease.check, Lease.verify, Except.map]
  refine ⟨run, ?_, ?_, rfl, ?_, by norm_num, ?_⟩
  · norm_num [displacedAtWork]
  · exact ⟨⟨"B", 1, 1 + 2⟩, by norm_num +decide [displacedAtWork, Lease.new, Lease.run,
      Lease.after, Lease.outcome, Lease.acquire, Lease.grant, Lease.expireIfStale,
      Lease.holdEnter, Lease.check, Lease.verify], rfl⟩
  · simp [lastRefresh, LeaseEvent.refreshes, displacedAtWork]
  · intro acquired
    obtain ⟨info, acquired⟩ := acquired
    norm_num +decide [displacedAtWork, Lease.new, Lease.run, Lease.after, Lease.outcome,
      Lease.acquire, Lease.grant, Lease.expireIfStale, Lease.holdEnter, Lease.check,
      Lease.verify] at acquired
    cases acquired

end FlexivControl
