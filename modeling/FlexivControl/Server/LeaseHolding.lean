/-
Whether a hold keeps the lease.

The check that admits a hold and the count that keeps the lease from expiring are two
steps, and releasing does not look at the count. So the owner keeps the lease through its
hold as long as the lease neither runs out between the two nor is released meanwhile.
-/

import FlexivControl.Server.LeaseBlocks

namespace FlexivControl

open Pool

variable {K : Type} [Scalar K]

section Hold

variable (uses : Nat → LeaseUse) (events : List (Event (leaseBlocks K) Nat K)) (t : Nat)
  (owner : String)

def HoldEntering : Prop :=
  uses t = .hold owner ∧ ⟨.verify owner, .ok ()⟩ ∈ callsOf t events ∧
    ⟨.count, ()⟩ ∉ callsOf t events

/-- The hold has been entered and not left. -/
def HoldOpen : Prop :=
  uses t = .hold owner ∧ ⟨.count, ()⟩ ∈ callsOf t events ∧
    ⟨.uncount owner, ()⟩ ∉ callsOf t events

end Hold

/-- The lease is not released while its owner's hold is entered or open, and no call finds
it stale while the hold is being entered. -/
structure Undisturbed (uses : Nat → LeaseUse) (start : LeaseState K)
    (events : List (Event (leaseBlocks K) Nat K)) : Prop where
  unreleased : ∀ pre u c post t owner, events = pre ++ .call u c :: post →
    HoldEntering uses pre t owner ∨ HoldOpen uses pre t owner → c.op ≠ .drop owner
  unexpired : ∀ pre u c post t owner, events = pre ++ .call u c :: post →
    HoldEntering uses pre t owner → c.op = .expire →
      ¬ (sharedLease.run start pre).lease.Lapsed (sharedLease.run start pre).now

theorem Undisturbed.initial {uses : Nat → LeaseUse} {start : LeaseState K}
    {pre post : List (Event (leaseBlocks K) Nat K)}
    (undisturbed : Undisturbed uses start (pre ++ post)) : Undisturbed uses start pre where
  unreleased := by
    intro before u c after t owner split
    apply undisturbed.unreleased before u c (after ++ post)
    rw [split, List.append_assoc, List.cons_append]
  unexpired := by
    intro before u c after t owner split
    apply undisturbed.unexpired before u c (after ++ post)
    rw [split, List.append_assoc, List.cons_append]

def checkedCalls (owner : String) : List (Call (leaseBlocks K)) :=
  [⟨.expire, ()⟩, ⟨.verify owner, .ok ()⟩]

def enteredCalls (owner : String) : List (Call (leaseBlocks K)) :=
  checkedCalls owner ++ [⟨.count, ()⟩]

theorem hold_calls {owner : String} {calls : List (Call (leaseBlocks K))}
    {q : LeaseM K (Except Exc Unit)} (ran : Trace (methodBlocks (.hold owner)) calls q) :
    calls = [] ∨ calls = [⟨.expire, ()⟩] ∨
      (∃ e, calls = [⟨.expire, ()⟩, ⟨.verify owner, .error e⟩]) ∨ calls = checkedCalls owner ∨
        calls = enteredCalls owner ∨ calls = enteredCalls owner ++ [⟨.uncount owner, ()⟩] := by
  rcases ran.nil_or_call with none | ⟨_, rest, same, afterExpire⟩
  · exact Or.inl none
  · right
    subst same
    rcases afterExpire.nil_or_call with none | ⟨verified, rest, same, afterVerify⟩
    · exact Or.inl (by rw [none]; rfl)
    · right
      subst same
      cases verified with
      | error e =>
          have refused : Trace (.done (.error e) : LeaseM K (Except Exc Unit)) rest q :=
            afterVerify
          exact Or.inl ⟨e, by rw [refused.nil_of_done]; rfl⟩
      | ok a =>
          right
          rcases afterVerify.nil_or_call with none | ⟨_, rest, same, afterCount⟩
          · exact Or.inl (by rw [none]; rfl)
          · right
            subst same
            rcases afterCount.nil_or_call with none | ⟨_, rest, same, afterUncount⟩
            · exact Or.inl (by rw [none]; rfl)
            · subst same
              have exited : Trace (.done (.ok ()) : LeaseM K (Except Exc Unit)) rest q :=
                afterUncount
              exact Or.inr (by rw [exited.nil_of_done]; rfl)

theorem entering_calls {owner : String} {calls : List (Call (leaseBlocks K))}
    {q : LeaseM K (Except Exc Unit)} (ran : Trace (methodBlocks (.hold owner)) calls q)
    (checked : ⟨.verify owner, .ok ()⟩ ∈ calls) (uncounted : ⟨.count, ()⟩ ∉ calls) :
    calls = checkedCalls owner := by
  rcases hold_calls ran with h | h | ⟨e, h⟩ | h | h | h <;> subst h
  · cases checked
  · simp only [List.mem_singleton] at checked
    cases checked
  · simp only [List.mem_cons, List.not_mem_nil, or_false] at checked
    rcases checked with same | same <;> cases same
  · rfl
  · simp [enteredCalls] at uncounted
  · simp [enteredCalls] at uncounted

theorem open_calls {owner : String} {calls : List (Call (leaseBlocks K))}
    {q : LeaseM K (Except Exc Unit)} (ran : Trace (methodBlocks (.hold owner)) calls q)
    (counted : ⟨.count, ()⟩ ∈ calls) (unleft : ⟨.uncount owner, ()⟩ ∉ calls) :
    calls = enteredCalls owner := by
  rcases hold_calls ran with h | h | ⟨e, h⟩ | h | h | h <;> subst h
  · cases counted
  · simp only [List.mem_singleton] at counted
    cases counted
  · simp only [List.mem_cons, List.not_mem_nil, or_false] at counted
    rcases counted with same | same <;> cases same
  · simp only [checkedCalls, List.mem_cons, List.not_mem_nil, or_false] at counted
    rcases counted with same | same <;> cases same
  · rfl
  · simp at unleft

def holdWeight : Call (leaseBlocks K) → Int
  | ⟨.count, _⟩ => 1
  | ⟨.uncount _, _⟩ => -1
  | _ => 0

def MayPerform (use : LeaseUse) : LeaseBlock → Prop
  | .count => ∃ owner, use = .hold owner
  | .uncount owner => use = .hold owner
  | .grant owner force => use = .acquire owner force
  | _ => True

theorem methodBlocks_uses (use : LeaseUse) : (methodBlocks use : LeaseM K _).Uses (MayPerform use) := by
  have checks (owner : String) : (checkBlocks owner : LeaseM K _).Uses (MayPerform use) :=
    And.intro trivial fun _ => And.intro trivial fun _ => trivial
  cases use with
  | acquire owner force =>
      rw [methodBlocks]
      split
      · trivial
      · exact And.intro trivial fun _ => And.intro rfl fun _ => trivial
  | heartbeat owner => exact And.intro trivial fun _ => trivial
  | release owner => exact And.intro trivial fun _ => trivial
  | check owner => exact checks owner
  | owner => exact And.intro trivial fun _ => And.intro trivial fun _ => trivial
  | info => exact And.intro trivial fun _ => And.intro trivial fun _ => trivial
  | hold owner =>
      apply (checks owner).bind
      intro verified
      cases verified with
      | error e => trivial
      | ok a => exact And.intro ⟨owner, rfl⟩ fun _ => And.intro rfl fun _ => trivial

theorem holdWeights_nonneg {use : LeaseUse} {calls : List (Call (leaseBlocks K))}
    {q : LeaseM K (Except Exc Unit)} (ran : Trace (methodBlocks use) calls q) :
    0 ≤ (calls.map holdWeight).sum := by
  by_cases holds : ∃ owner, use = .hold owner
  · obtain ⟨owner, same⟩ := holds
    subst same
    rcases hold_calls ran with h | h | ⟨e, h⟩ | h | h | h <;> subst h <;>
      simp [holdWeight, checkedCalls, enteredCalls]
  · have unweighted : ∀ c ∈ calls, holdWeight c = 0 := by
      intro c member
      have performs := ((methodBlocks_uses use).trace ran).1 c member
      obtain ⟨op, answer⟩ := c
      cases op with
      | count => exact absurd performs holds
      | uncount owner => exact absurd ⟨owner, performs⟩ holds
      | _ => rfl
    rw [List.map_congr_left unweighted, List.map_const', List.sum_replicate, smul_zero]

abbrev leaseThreads (uses : Nat → LeaseUse) (t : Nat) : LeaseM K (Except Exc Unit) :=
  methodBlocks (uses t)

section Holds

variable (lease : Lease K) (owner : String) (now : K)

theorem grantSection_holds (force : Bool) :
    (lease.grantSection owner force now).2.holds = lease.holds := by
  rw [Lease.grantSection]
  split
  · rfl
  · split <;> rfl

theorem heartbeat_holds : (lease.heartbeat owner now).2.holds = lease.holds := by
  rw [Lease.heartbeat]
  split
  · rfl
  · split <;> rfl

omit [Scalar K] in
theorem release_holds : (lease.release owner).2.holds = lease.holds := by
  rw [Lease.release]
  split
  · rfl
  · split <;> rfl

theorem holdExit_holds : (lease.holdExit owner now).holds = lease.holds - 1 := by
  rw [Lease.holdExit]
  dsimp only
  split
  · rfl
  · split <;> rfl

end Holds

theorem holds_eq_tally {start : LeaseState K} (unheld : start.lease.holds = 0)
    (events : List (Event (leaseBlocks K) Nat K)) :
    (sharedLease.run start events).lease.holds =
      Ledger.counter (Ledger.tally holdWeight events) := by
  induction events using List.reverseRecOn with
  | nil => exact unheld
  | append_singleton pre e ih =>
      rw [Machine.run_append, Ledger.tally_append, Ledger.counter_append, ← ih]
      generalize sharedLease.run start pre = s
      cases e with
      | env now => exact (add_zero _).symm
      | call u c =>
          obtain ⟨op, answer⟩ := c
          change (s.afterBlock op).holds = s.lease.holds + (holdWeight ⟨op, answer⟩ + 0)
          cases op with
          | expire => exact (Lease.expireIfStale_holds s.lease s.now).trans (add_zero _).symm
          | count => rfl
          | grant owner force => exact (grantSection_holds _ _ _ _).trans (add_zero _).symm
          | refresh owner => exact (heartbeat_holds _ _ _).trans (add_zero _).symm
          | drop owner => exact (release_holds _ _).trans (add_zero _).symm
          | uncount owner => exact holdExit_holds _ _ _
          | _ => exact (add_zero _).symm

/-! ### Keeping the lease -/

theorem grantSection_keeps {lease : Lease K} {owner : String}
    (recorded : lease.RecordedFor owner) (other : String) (now : K) :
    (lease.grantSection other false now).2.RecordedFor owner := by
  obtain ⟨info, found, owned⟩ := recorded
  rw [Lease.grantSection, found]
  dsimp only
  by_cases another : info.owner ≠ other ∧ false = false
  · rw [if_pos another]
    exact ⟨info, found, owned⟩
  · rw [if_neg another]
    have same : other = owner := by
      by_contra different
      exact another ⟨fun equal => different (equal.symm.trans owned), rfl⟩
    exact ⟨_, rfl, same⟩

/-- A section that does not force, drop the owner's lease or find it stale keeps it. -/
theorem afterBlock_keeps {s : LeaseState K} {op : LeaseBlock} {owner : String}
    (recorded : s.lease.RecordedFor owner) (unforced : ∀ other, op ≠ .grant other true)
    (unreleased : op ≠ .drop owner) (current : op = .expire → ¬ s.lease.Lapsed s.now) :
    (s.afterBlock op).RecordedFor owner := by
  cases op with
  | expire =>
      change (s.lease.expireIfStale s.now).RecordedFor owner
      rw [Lease.expireIfStale_of_current (current rfl)]
      exact recorded
  | grant other force =>
      cases force with
      | true => exact absurd rfl (unforced other)
      | false => exact grantSection_keeps recorded other s.now
  | refresh other => exact Lease.heartbeat_keeps recorded other
  | drop other =>
      apply Lease.release_keeps recorded
      intro _ same
      exact unreleased (congrArg LeaseBlock.drop same)
  | uncount other => exact Lease.holdExit_keeps recorded other
  | _ => exact recorded

section Runs

variable {uses : Nat → LeaseUse} {start : LeaseState K}
  {events : List (Event (leaseBlocks K) Nat K)} {t : Nat} {owner : String}

theorem HoldOpen.current (open_hold : HoldOpen uses events t owner)
    (run : Run sharedLease (leaseThreads uses) start events) (unheld : start.lease.holds = 0) :
    ¬ (sharedLease.run start events).lease.Lapsed (sharedLease.run start events).now := by
  obtain ⟨use, counted, unleft⟩ := open_hold
  have solvent (u : Nat) : 0 ≤ Ledger.outstanding u (Ledger.tally holdWeight events) := by
    obtain ⟨q, ran⟩ := run.traced u
    rw [Ledger.outstanding_tally]
    exact holdWeights_nonneg ran
  have own : Ledger.outstanding t (Ledger.tally holdWeight events) = 1 := by
    obtain ⟨q, ran⟩ := run.traced t
    rw [leaseThreads, use] at ran
    rw [Ledger.outstanding_tally, open_calls ran counted unleft]
    simp [holdWeight, checkedCalls, enteredCalls]
  have below := Ledger.outstanding_le_counter solvent t
  intro lapsed
  have idle := lapsed.1
  rw [holds_eq_tally unheld] at idle
  omega

omit [Scalar K] in
theorem hold_elsewhere {pre : List (Event (leaseBlocks K) Nat K)}
    {e : Event (leaseBlocks K) Nat K} (elsewhere : callsOf t [e] = [])
    (hold : HoldEntering uses (pre ++ [e]) t owner ∨ HoldOpen uses (pre ++ [e]) t owner) :
    HoldEntering uses pre t owner ∨ HoldOpen uses pre t owner := by
  rwa [HoldEntering, HoldOpen, callsOf_append, elsewhere, List.append_nil] at hold

theorem recorded_of_hold (run : Run sharedLease (leaseThreads uses) start events)
    (unheld : start.lease.holds = 0) (unforced : ∀ u other, uses u ≠ .acquire other true)
    (undisturbed : Undisturbed uses start events)
    (hold : HoldEntering uses events t owner ∨ HoldOpen uses events t owner) :
    (sharedLease.run start events).lease.RecordedFor owner := by
  induction events using List.reverseRecOn generalizing t with
  | nil =>
      rcases hold with ⟨_, impossible, _⟩ | ⟨_, impossible, _⟩ <;> cases impossible
  | append_singleton pre e ih =>
      have before {u : Nat} (hold : HoldEntering uses pre u owner ∨ HoldOpen uses pre u owner) :=
        ih run.initial undisturbed.initial hold
      have enabled := run.valid.enabled_at
      rw [Machine.run_append]
      cases e with
      | env now => exact before (hold_elsewhere rfl hold)
      | call u c =>
          change ((sharedLease.run start pre).afterBlock c.op).RecordedFor owner
          by_cases own : u = t
          · subst own
            obtain ⟨q, ran⟩ := run.traced u
            have calls_eq : callsOf u (pre ++ [.call u c]) = callsOf u pre ++ [c] := by
              rw [callsOf_append, callsOf_own, callsOf_nil]
            rcases hold with ⟨use, checked, uncounted⟩ | ⟨use, counted, unleft⟩
            · rw [leaseThreads, use] at ran
              have reached := entering_calls ran checked uncounted
              have ended : callsOf u pre ++ [c] =
                  [⟨.expire, ()⟩] ++ [⟨.verify owner, .ok ()⟩] := calls_eq.symm.trans reached
              obtain ⟨_, same⟩ := List.append_inj' ended rfl
              cases same
              have verified : Except.ok () = (sharedLease.run start pre).lease.verify owner :=
                enabled
              exact Lease.verify_ok.mp verified.symm
            · rw [leaseThreads, use] at ran
              have reached := open_calls ran counted unleft
              obtain ⟨earlier, same⟩ := List.append_inj' (calls_eq.symm.trans reached) rfl
              cases same
              have entering : HoldEntering uses pre u owner := by
                refine ⟨use, ?_, ?_⟩
                · rw [earlier]
                  exact List.mem_cons_of_mem _ List.mem_cons_self
                · rw [earlier]
                  simp only [checkedCalls, List.mem_cons, List.not_mem_nil, or_false]
                  rintro (same | same) <;> cases same
              exact before (Or.inl entering)
          · have elsewhere :
                callsOf t ([.call u c] : List (Event (leaseBlocks K) Nat K)) = [] := by
              rw [callsOf_other t own, callsOf_nil]
            have hold_before := hold_elsewhere elsewhere hold
            apply afterBlock_keeps (before hold_before)
            · intro other same
              obtain ⟨q, ran⟩ := run.traced u
              have performs := ((methodBlocks_uses (uses u)).trace ran).1 c
                (callsOf_member.mpr (List.mem_append_right _ List.mem_cons_self))
              rw [same] at performs
              exact unforced u other performs
            · exact undisturbed.unreleased pre u c [] t owner rfl hold_before
            · intro expires
              rcases hold_before with entering | open_hold
              · exact undisturbed.unexpired pre u c [] t owner rfl entering expires
              · exact open_hold.current run.initial unheld

/-- Without forced acquisitions, whoever has a hold open owns the lease and nobody else
can acquire it, in every run in which no hold's lease is released between the hold's
check and its end, and none is found stale between the check and the count. -/
theorem hold_keeps_owner (run : Run sharedLease (leaseThreads uses) start events)
    (unheld : start.lease.holds = 0) (unforced : ∀ u other, uses u ≠ .acquire other true)
    (undisturbed : Undisturbed uses start events) :
    ∀ pre post, events = pre ++ post → ∀ t owner, HoldOpen uses pre t owner →
      let s := sharedLease.run start pre
      s.lease.holder s.now = some owner ∧ ∀ other, other ≠ owner →
        ∃ error, (s.lease.acquire other false s.now).1 = .error error := by
  intro pre post split t owner open_hold
  subst split
  have current := open_hold.current run.initial unheld
  have recorded := recorded_of_hold run.initial unheld unforced undisturbed.initial
    (Or.inr open_hold)
  obtain ⟨_, _, _, exclusive⟩ := Lease.secured recorded current
  refine ⟨Lease.holder_eq_some.mpr ⟨recorded, current⟩, ?_⟩
  intro other another
  obtain ⟨error, refused, _⟩ := exclusive other another
  exact ⟨error, refused⟩

end Runs

noncomputable def unleased : LeaseState ℝ := { now := 0, lease := Lease.new 2 }

def twoClients : Nat → LeaseUse
  | 0 => .acquire "A" false
  | 1 => .hold "A"
  | 2 => .acquire "B" false
  | _ => .info

noncomputable def acquiredByA : List (Event (leaseBlocks ℝ) Nat ℝ) :=
  [.call 0 ⟨.expire, ()⟩, .call 0 ⟨.grant "A" false, .ok ⟨"A", 0, 2⟩⟩]

noncomputable def enteredInTime : List (Event (leaseBlocks ℝ) Nat ℝ) :=
  acquiredByA ++ [.call 1 ⟨.expire, ()⟩, .call 1 ⟨.verify "A", .ok ()⟩, .call 1 ⟨.count, ()⟩]

theorem hold_keeps_owner_in_time :
    (sharedLease.run unleased enteredInTime).lease.holder
      (sharedLease.run unleased enteredInTime).now = some "A" := by
  have run : Run sharedLease (leaseThreads twoClients) unleased enteredInTime := by
    constructor
    · norm_num +decide [enteredInTime, acquiredByA, Machine.Valid, sharedLease, unleased,
        LeaseState.Answers, LeaseState.afterBlock, Lease.new, Lease.expireIfStale,
        Lease.grantSection, Lease.grant, Lease.verify]
      exact ⟨rfl, rfl⟩
    · rintro (_ | _ | _)
      · exact ⟨_, .cons (.cons (.nil _))⟩
      · exact ⟨_, .cons (.cons (.cons (.nil _)))⟩
      · exact ⟨_, .nil _⟩
  have unforced : ∀ u other, twoClients u ≠ .acquire other true := by
    rintro (_ | _ | _ | _) _ impossible
    · cases impossible
    · cases impossible
    · cases impossible
    · cases impossible
  have undisturbed : Undisturbed twoClients unleased enteredInTime := by
    constructor
    · intro pre u c post t owner split _ dropped
      have member : .call u c ∈ enteredInTime := split ▸ List.mem_append_right pre List.mem_cons_self
      simp only [enteredInTime, acquiredByA, List.cons_append, List.nil_append, List.mem_cons,
        Event.call.injEq, List.not_mem_nil, or_false] at member
      rcases member with ⟨_, h⟩ | ⟨_, h⟩ | ⟨_, h⟩ | ⟨_, h⟩ | ⟨_, h⟩ <;> subst h <;> cases dropped
    · intro pre u c post t owner split entering expires
      have checked := callsOf_member.mp entering.2.1
      rcases pre with _ | ⟨_, _ | ⟨_, _ | ⟨_, _ | ⟨_, _ | ⟨_, rest⟩⟩⟩⟩⟩
      · cases checked
      · cases split
        cases expires
      · cases split
        simp only [List.mem_cons, List.not_mem_nil, or_false] at checked
        rcases checked with h | h <;> cases h
      · cases split
        cases expires
      · cases split
        cases expires
      · cases rest <;> cases split
  have open_hold : HoldOpen twoClients enteredInTime 1 "A" := by
    refine ⟨rfl, List.mem_cons_of_mem _ (List.mem_cons_of_mem _ List.mem_cons_self), ?_⟩
    intro left
    have member := callsOf_member.mp left
    simp only [enteredInTime, acquiredByA, List.cons_append, List.nil_append, List.mem_cons,
      List.not_mem_nil, or_false] at member
    rcases member with h | h | h | h | h <;> cases h
  exact (hold_keeps_owner run rfl unforced undisturbed enteredInTime [] (List.append_nil _).symm 1
    "A" open_hold).1

noncomputable def overtakenHold : List (Event (leaseBlocks ℝ) Nat ℝ) :=
  acquiredByA ++ [.env 2, .call 1 ⟨.expire, ()⟩, .call 1 ⟨.verify "A", .ok ()⟩, .env 3,
    .call 2 ⟨.expire, ()⟩, .call 2 ⟨.grant "B" false, .ok ⟨"B", 3, 5⟩⟩, .call 1 ⟨.count, ()⟩]

/-- A has its hold open and B owns the lease. -/
theorem hold_entered_without_lease :
    Run sharedLease (leaseThreads twoClients) unleased overtakenHold ∧
      HoldOpen twoClients overtakenHold 1 "A" ∧
        (sharedLease.run unleased overtakenHold).lease.holder
          (sharedLease.run unleased overtakenHold).now = some "B" := by
  refine ⟨?_, ?_, ?_⟩
  · constructor
    · norm_num +decide [overtakenHold, acquiredByA, Machine.Valid, sharedLease, unleased,
        LeaseState.Answers, LeaseState.afterBlock, Lease.new, Lease.expireIfStale,
        Lease.grantSection, Lease.grant, Lease.verify]
      exact ⟨rfl, rfl, rfl⟩
    · rintro (_ | _ | _ | _)
      · exact ⟨_, .cons (.cons (.nil _))⟩
      · exact ⟨_, .cons (.cons (.cons (.nil _)))⟩
      · exact ⟨_, .cons (.cons (.nil _))⟩
      · exact ⟨_, .nil _⟩
  · refine ⟨rfl, List.mem_cons_of_mem _ (List.mem_cons_of_mem _ List.mem_cons_self), ?_⟩
    intro left
    have member := callsOf_member.mp left
    simp only [overtakenHold, acquiredByA, List.cons_append, List.nil_append, List.mem_cons,
      List.not_mem_nil, or_false] at member
    rcases member with h | h | h | h | h | h | h | h | h <;> cases h
  · norm_num +decide [overtakenHold, acquiredByA, sharedLease, unleased, LeaseState.afterBlock,
      Lease.new, Lease.expireIfStale, Lease.grantSection, Lease.grant, Lease.verify, Lease.holder]

end FlexivControl
