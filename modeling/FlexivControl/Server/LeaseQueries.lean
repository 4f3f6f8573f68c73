/-
Histories of one lease with and without some of the queries.

A query drops a lease whose time is up, and so do an acquisition and the start of a hold.
A heartbeat and a release take the record as it stands: what they answer may depend on
whether somebody has looked at the lease before.
-/

import FlexivControl.Server.LeaseRuns

namespace FlexivControl

namespace LeaseCall

def isQuery : LeaseCall → Bool
  | .owner | .info | .check _ => true
  | _ => false

def looks : LeaseCall → Bool
  | .acquire claimant _ => !decide (claimant = "")
  | .owner | .info | .check _ | .holdEnter _ => true
  | .heartbeat _ | .release _ | .holdExit _ => false

end LeaseCall

/-- One call of a history; `extra` marks the queries that the shorter history does without. -/
structure LeaseStep (K : Type) where
  now : K
  call : LeaseCall
  extra : Bool := false

def everyCall {K : Type} (history : List (LeaseStep K)) : List (K × LeaseCall) :=
  history.map fun step => (step.now, step.call)

def withoutExtra {K : Type} (history : List (LeaseStep K)) : List (K × LeaseCall) :=
  everyCall (history.filter fun step => !step.extra)

namespace Lease

variable {K : Type} [Scalar K]

def replay (lease : Lease K) (calls : List (K × LeaseCall)) : Lease K :=
  calls.foldl (fun lease call => (lease.outcome call.1 call.2).2) lease

/-- Which of the acquisitions, heartbeats, releases and holds succeed. -/
def answers : Lease K → List (K × LeaseCall) → List Bool
  | _, [] => []
  | lease, call :: rest =>
      if call.2.isQuery then answers (lease.outcome call.1 call.2).2 rest
      else (lease.outcome call.1 call.2).1.isOk :: answers (lease.outcome call.1 call.2).2 rest

def HoldsPaired : Lease K → List (K × LeaseCall) → Prop
  | _, [] => True
  | lease, call :: rest =>
      (∀ owner, call.2 = .holdExit owner → 0 < lease.holds) ∧
        HoldsPaired (lease.outcome call.1 call.2).2 rest

def Disputed (lease : Lease K) : LeaseCall → Prop
  | .heartbeat owner => lease.RecordedFor owner
  | .release owner => ¬ lease.RecordedFor owner
  | _ => False

/-- Followed along the history without the extra queries: `seen` says that one of them has
found the recorded lease run out, and no call has dropped it since. -/
def Undisputed : Lease K → Prop → List (LeaseStep K) → Prop
  | _, _, [] => True
  | lease, seen, step :: rest =>
      if step.extra then Undisputed lease (seen ∨ lease.Lapsed step.now) rest
      else
        ¬ (seen ∧ lease.Disputed step.call) ∧
          Undisputed (lease.outcome step.now step.call).2
            (seen ∧ step.call.looks = false ∧ ∀ owner, step.call ≠ .release owner) rest

end Lease

/-- What the calls of a history have in common with the code: the clock never goes back,
only queries are left out, and every hold that ends has begun. -/
structure LeaseHistory (ttl : ℝ) (history : List (LeaseStep ℝ)) : Prop where
  ordered : history.Pairwise fun earlier later => earlier.now ≤ later.now
  queries : ∀ step ∈ history, step.extra = true → step.call.isQuery = true
  paired : (Lease.new ttl).HoldsPaired (withoutExtra history)

namespace Lease

/-- The lease of the history with the extra queries, beside the lease of the one without. -/
structure Beside (plain watched : Lease ℝ) (seen : Prop) (now : ℝ) : Prop where
  unseen : ¬ seen → watched = plain
  dropped : seen → watched = { plain with info := none }
  lapsed : seen → plain.Lapsed now

section Beside

variable {plain watched : Lease ℝ} {seen : Prop} {now next : ℝ}

theorem Lapsed.mono {lease : Lease ℝ} (lapsed : lease.Lapsed now) (ordered : now ≤ next) :
    lease.Lapsed next := by
  obtain ⟨idle, info, recorded, stale⟩ := lapsed
  exact ⟨idle, info, recorded, lt_of_lt_of_le stale ordered⟩

theorem Beside.later (beside : Beside plain watched seen now) (ordered : now ≤ next) :
    Beside plain watched seen next where
  unseen := beside.unseen
  dropped := beside.dropped
  lapsed := fun looked => (beside.lapsed looked).mono ordered

theorem Beside.same (lease : Lease ℝ) (now : ℝ) : Beside lease lease False now where
  unseen := fun _ => rfl
  dropped := False.elim
  lapsed := False.elim

theorem expireIfStale_dropped (lease : Lease ℝ) :
    ({ lease with info := none } : Lease ℝ).expireIfStale now = { lease with info := none } := by
  apply expireIfStale_of_current
  intro lapsed
  obtain ⟨_, info, impossible, _⟩ := lapsed
  cases impossible

theorem Beside.expired (beside : Beside plain watched seen now) :
    watched.expireIfStale now = plain.expireIfStale now := by
  by_cases looked : seen
  · rw [beside.dropped looked, expireIfStale_dropped,
      expireIfStale_of_lapsed (beside.lapsed looked)]
  · rw [beside.unseen looked]

theorem outcome_query {lease : Lease ℝ} {call : LeaseCall} (query : call.isQuery = true) :
    (lease.outcome now call).2 = lease.expireIfStale now := by
  cases call with
  | check owner => rfl
  | owner =>
      rw [outcome, Lease.owner]
      dsimp only
      cases (lease.expireIfStale now).info <;> rfl
  | info => rfl
  | _ => cases query

theorem Beside.extra (beside : Beside plain watched seen now) {call : LeaseCall}
    (query : call.isQuery = true) :
    Beside plain (watched.outcome now call).2 (seen ∨ plain.Lapsed now) now := by
  rw [outcome_query query, beside.expired]
  by_cases lapsed : plain.Lapsed now
  · rw [expireIfStale_of_lapsed lapsed]
    exact ⟨fun unseen => absurd (Or.inr lapsed) unseen, fun _ => rfl, fun _ => lapsed⟩
  · rw [expireIfStale_of_current lapsed]
    refine ⟨fun _ => rfl, fun looked => ?_, fun looked => ?_⟩
    · rcases looked with before | stale
      · exact absurd (beside.lapsed before) lapsed
      · exact absurd stale lapsed
    · rcases looked with before | stale
      · exact beside.lapsed before
      · exact stale

theorem Beside.outcome_eq (beside : Beside plain watched seen now) {call : LeaseCall}
    (looks : call.looks = true) : watched.outcome now call = plain.outcome now call := by
  have expired := beside.expired
  cases call with
  | acquire owner force =>
      have named : owner ≠ "" := by
        intro empty
        rw [LeaseCall.looks, empty] at looks
        cases looks
      rw [outcome, outcome, acquire, acquire, if_neg named, if_neg named, expired]
  | owner => rw [outcome, outcome, Lease.owner, Lease.owner, expired]
  | info => rw [outcome, outcome, readInfo, readInfo, expired]
  | check owner => rw [outcome, outcome, check, check, expired]
  | holdEnter owner => rw [outcome, outcome, holdEnter, holdEnter, check, check, expired]
  | heartbeat owner => cases looks
  | release owner => cases looks
  | holdExit owner => cases looks

theorem heartbeat_of_not_recorded {lease : Lease ℝ} {owner : String}
    (another : ¬ lease.RecordedFor owner) : lease.heartbeat owner now =
      (.error (leaseError ("'" ++ owner ++ "' does not hold the lease")), lease) := by
  rw [heartbeat]
  cases found : lease.info with
  | none => rfl
  | some info => exact if_pos fun same => another ⟨info, found, same⟩

theorem not_recordedFor_dropped {lease : Lease ℝ} {owner : String} :
    ¬ ({ lease with info := none } : Lease ℝ).RecordedFor owner := by
  intro recorded
  obtain ⟨info, impossible, _⟩ := recorded
  cases impossible

/-- While the two histories differ, a call that does not look and is not disputed answers
the same in both; a release by the recorded owner ends the difference. -/
theorem Beside.call_unseen (beside : Beside plain watched seen now) (looked : seen)
    {call : LeaseCall} (blind : call.looks = false) (undisputed : ¬ plain.Disputed call)
    (paired : ∀ owner, call = .holdExit owner → 0 < plain.holds) :
    (watched.outcome now call).1 = (plain.outcome now call).1 ∧
      Beside (plain.outcome now call).2 (watched.outcome now call).2
        (∀ owner, call ≠ .release owner) now := by
  have lapsed := beside.lapsed looked
  rw [beside.dropped looked]
  cases call with
  | acquire owner force =>
      have empty : owner = "" := by
        by_contra named
        rw [LeaseCall.looks, decide_eq_false named] at blind
        cases blind
      rw [outcome, outcome, acquire, acquire, if_pos empty, if_pos empty]
      refine ⟨rfl, fun released => ?_, fun _ => rfl, fun _ => lapsed⟩
      exact absurd (fun owner impossible => (by cases impossible)) released
  | heartbeat owner =>
      rw [outcome, outcome, heartbeat_of_not_recorded undisputed,
        heartbeat_of_not_recorded not_recordedFor_dropped]
      refine ⟨rfl, fun released => ?_, fun _ => rfl, fun _ => lapsed⟩
      exact absurd (fun owner impossible => (by cases impossible)) released
  | release owner =>
      obtain ⟨info, found, owned⟩ := not_not.mp undisputed
      have left : plain.release owner = (.ok (), { plain with info := none }) := by
        rw [release, found]
        exact if_neg (not_not.mpr owned)
      rw [outcome, outcome, left]
      exact ⟨rfl, fun _ => rfl, fun kept => absurd rfl (kept owner),
        fun kept => absurd rfl (kept owner)⟩
  | holdExit owner => exact absurd (paired owner rfl) (not_lt.mpr lapsed.1)
  | owner => cases blind
  | info => cases blind
  | check owner => cases blind
  | holdEnter owner => cases blind

theorem Beside.call_disputed (beside : Beside plain watched seen now) (looked : seen)
    {call : LeaseCall} (disputed : plain.Disputed call) :
    (watched.outcome now call).1.isOk ≠ (plain.outcome now call).1.isOk := by
  rw [beside.dropped looked]
  obtain ⟨idle, info, found, stale⟩ := beside.lapsed looked
  cases call with
  | heartbeat owner =>
      obtain ⟨info', found', owned⟩ := disputed
      rw [outcome, outcome, heartbeat_of_not_recorded not_recordedFor_dropped, heartbeat, found']
      dsimp only
      rw [if_neg (not_not.mpr owned)]
      exact Bool.false_ne_true
  | release owner =>
      have another : info.owner ≠ owner := fun same => disputed ⟨info, found, same⟩
      rw [outcome, outcome, release, release, found]
      dsimp only
      rw [if_pos another]
      exact Bool.false_ne_true.symm
  | _ => exact False.elim disputed

theorem Beside.agree {lease : Lease ℝ} (unseen : ¬ seen) : Beside lease lease seen now where
  unseen := fun _ => rfl
  dropped := fun looked => absurd looked unseen
  lapsed := fun looked => absurd looked unseen

theorem Beside.call (beside : Beside plain watched seen now) {call : LeaseCall}
    (undisputed : ¬ (seen ∧ plain.Disputed call))
    (paired : ∀ owner, call = .holdExit owner → 0 < plain.holds) :
    (watched.outcome now call).1 = (plain.outcome now call).1 ∧
      Beside (plain.outcome now call).2 (watched.outcome now call).2
        (seen ∧ call.looks = false ∧ ∀ owner, call ≠ .release owner) now := by
  cases looks : call.looks with
  | true =>
      rw [beside.outcome_eq looks]
      exact ⟨rfl, .agree fun kept => Bool.noConfusion kept.2.1⟩
  | false =>
      by_cases looked : seen
      · have apart : ¬ plain.Disputed call := fun disputed => undisputed ⟨looked, disputed⟩
        obtain ⟨same, next⟩ := beside.call_unseen looked looks apart paired
        refine ⟨same, fun unseen => ?_, fun kept => next.dropped kept.2.2,
          fun kept => next.lapsed kept.2.2⟩
        exact next.unseen fun kept => unseen ⟨looked, rfl, kept⟩
      · rw [beside.unseen looked]
        exact ⟨rfl, .agree fun kept => looked kept.1⟩

theorem Beside.owner_eq (beside : Beside plain watched seen now) :
    (watched.owner now).1 = (plain.owner now).1 := by
  rw [Lease.owner, Lease.owner, beside.expired]

end Beside

theorem disputed_not_query {lease : Lease ℝ} {call : LeaseCall} (disputed : lease.Disputed call) :
    call.isQuery = false := by
  cases call with
  | heartbeat owner => rfl
  | release owner => rfl
  | _ => exact False.elim disputed

section Answers

variable {K : Type} [Scalar K] {lease : Lease K} {now : K} {call : LeaseCall}
  {rest : List (K × LeaseCall)}

theorem answers_query (query : call.isQuery = true) :
    lease.answers ((now, call) :: rest) = (lease.outcome now call).2.answers rest := if_pos query

theorem answers_call (asks : call.isQuery = false) :
    lease.answers ((now, call) :: rest) =
      (lease.outcome now call).1.isOk :: (lease.outcome now call).2.answers rest :=
  if_neg (ne_true_of_eq_false asks)

end Answers

section Histories

variable {K : Type} {step : LeaseStep K} {history : List (LeaseStep K)}

theorem withoutExtra_extra (extra : step.extra = true) :
    withoutExtra (step :: history) = withoutExtra history := by
  rw [withoutExtra, List.filter_cons, extra]
  rfl

theorem withoutExtra_call (own : step.extra = false) :
    withoutExtra (step :: history) = (step.now, step.call) :: withoutExtra history := by
  rw [withoutExtra, List.filter_cons, own]
  rfl

end Histories

/-- The answers of the rest of the two histories agree if and only if nothing in it is
disputed, and then the leases stay beside each other to its end. -/
theorem Beside.run {plain watched : Lease ℝ} {seen : Prop} {now : ℝ}
    {history : List (LeaseStep ℝ)} (beside : Beside plain watched seen now)
    (after : ∀ step ∈ history, now ≤ step.now)
    (ordered : history.Pairwise fun earlier later => earlier.now ≤ later.now)
    (queries : ∀ step ∈ history, step.extra = true → step.call.isQuery = true)
    (paired : plain.HoldsPaired (withoutExtra history)) :
    (watched.answers (everyCall history) = plain.answers (withoutExtra history) ↔
        plain.Undisputed seen history) ∧
      (plain.Undisputed seen history →
        ∀ later, now ≤ later → (∀ step ∈ history, step.now ≤ later) →
          ∃ seen', Beside (plain.replay (withoutExtra history))
            (watched.replay (everyCall history)) seen' later) := by
  induction history generalizing plain watched seen now with
  | nil =>
      refine ⟨⟨fun _ => trivial, fun _ => rfl⟩, ?_⟩
      intro _ later ordered _
      exact ⟨seen, beside.later ordered⟩
  | cons step history ih =>
      obtain ⟨first, ordered⟩ := List.pairwise_cons.mp ordered
      have since := after step (List.mem_cons_self ..)
      have query := queries step (List.mem_cons_self ..)
      have queries : ∀ later ∈ history, later.extra = true → later.call.isQuery = true :=
        fun later within => queries later (List.mem_cons_of_mem step within)
      have here := beside.later since
      cases extra : step.extra with
      | true =>
          rw [withoutExtra_extra extra] at paired ⊢
          have condition : plain.Undisputed seen (step :: history) =
              plain.Undisputed (seen ∨ plain.Lapsed step.now) history := if_pos extra
          obtain ⟨agree, beside_end⟩ := ih (here.extra (query extra)) first ordered queries paired
          rw [condition, everyCall, List.map_cons, answers_query (query extra)]
          refine ⟨agree, ?_⟩
          intro undisputed later _ before
          exact beside_end undisputed later (before step (List.mem_cons_self ..))
            fun other within => before other (List.mem_cons_of_mem step within)
      | false =>
          rw [withoutExtra_call extra] at paired ⊢
          obtain ⟨open_hold, paired⟩ := paired
          have condition : plain.Undisputed seen (step :: history) =
              (¬ (seen ∧ plain.Disputed step.call) ∧
                (plain.outcome step.now step.call).2.Undisputed
                  (seen ∧ step.call.looks = false ∧ ∀ owner, step.call ≠ .release owner)
                  history) := if_neg (ne_true_of_eq_false extra)
          rw [condition, everyCall, List.map_cons]
          by_cases disputed : seen ∧ plain.Disputed step.call
          · have asks := disputed_not_query disputed.2
            have differ := here.call_disputed disputed.1 disputed.2
            rw [answers_call asks, answers_call asks]
            refine ⟨⟨?_, fun undisputed => absurd disputed undisputed.1⟩,
              fun undisputed => absurd disputed undisputed.1⟩
            intro same
            exact absurd (List.cons_eq_cons.mp same).1 differ
          · obtain ⟨same, next⟩ := here.call disputed open_hold
            obtain ⟨agree, beside_end⟩ := ih next first ordered queries paired
            refine ⟨?_, ?_⟩
            · cases asks : step.call.isQuery with
              | true =>
                  rw [answers_query asks, answers_query asks]
                  exact agree.trans (and_iff_right disputed).symm
              | false =>
                  rw [answers_call asks, answers_call asks, same, List.cons_eq_cons]
                  exact (and_iff_right rfl).trans (agree.trans (and_iff_right disputed).symm)
            · intro undisputed later _ before
              exact beside_end undisputed.2 later (before step (List.mem_cons_self ..))
                fun other within => before other (List.mem_cons_of_mem step within)

end Lease

/-- Extra queries leave every answer and the resulting owner alone if and only if no
disputed call comes while one of them has found the recorded lease run out. -/
theorem queries_unnoticed_iff {ttl : ℝ} {history : List (LeaseStep ℝ)}
    (valid : LeaseHistory ttl history) :
    ((Lease.new ttl).answers (everyCall history) =
          (Lease.new ttl).answers (withoutExtra history) ∧
        ∀ later, (∀ step ∈ history, step.now ≤ later) →
          (((Lease.new ttl).replay (everyCall history)).owner later).1 =
            (((Lease.new ttl).replay (withoutExtra history)).owner later).1) ↔
      (Lease.new ttl).Undisputed False history := by
  cases history with
  | nil => exact ⟨fun _ => trivial, fun _ => ⟨rfl, fun _ _ => rfl⟩⟩
  | cons first rest =>
      have after : ∀ step ∈ first :: rest, first.now ≤ step.now := by
        intro step within
        rcases List.mem_cons.mp within with same | within
        · rw [same]
        · exact (List.pairwise_cons.mp valid.ordered).1 step within
      have run := (Lease.Beside.same (Lease.new ttl) first.now).run after valid.ordered
        valid.queries valid.paired
      constructor
      · intro same
        exact run.1.mp same.1
      · intro undisputed
        refine ⟨run.1.mpr undisputed, ?_⟩
        intro later before
        obtain ⟨seen, beside⟩ :=
          run.2 undisputed later (before first (List.mem_cons_self ..)) before
        exact beside.owner_eq

noncomputable def askedInPassing : List (LeaseStep ℝ) :=
  [{ now := 0, call := .acquire "A" false }, { now := 1, call := .info, extra := true },
    { now := 1, call := .heartbeat "A" }, { now := 5, call := .owner, extra := true },
    { now := 10, call := .acquire "B" false }]

theorem queries_unnoticed_iff_inPassing :
    (Lease.new 2).answers (everyCall askedInPassing) =
        (Lease.new 2).answers (withoutExtra askedInPassing) ∧
      ∀ later, (∀ step ∈ askedInPassing, step.now ≤ later) →
        (((Lease.new 2).replay (everyCall askedInPassing)).owner later).1 =
          (((Lease.new 2).replay (withoutExtra askedInPassing)).owner later).1 := by
  apply (queries_unnoticed_iff ⟨?_, ?_, ?_⟩).mpr
  · norm_num +decide [askedInPassing, Lease.Undisputed, Lease.Disputed, Lease.outcome, Lease.Lapsed,
      LeaseCall.looks, Lease.acquire, Lease.new, Lease.expireIfStale, Lease.grant,
      Lease.heartbeat]
  · norm_num [askedInPassing]
  · simp [askedInPassing, LeaseCall.isQuery]
  · simp [askedInPassing, withoutExtra, everyCall, Lease.HoldsPaired]

noncomputable def askedLate : List (LeaseStep ℝ) :=
  [{ now := 0, call := .acquire "A" false }, { now := 3, call := .owner, extra := true },
    { now := 4, call := .heartbeat "A" }]

/-- The heartbeat fails, which would have succeeded had nobody asked. -/
theorem query_fails_heartbeat :
    LeaseHistory 2 askedLate ∧
      (Lease.new 2).answers (everyCall askedLate) = [true, false] ∧
      (Lease.new 2).answers (withoutExtra askedLate) = [true, true] ∧
      (((Lease.new 2).replay (everyCall askedLate)).owner 4).1 = "" ∧
      (((Lease.new 2).replay (withoutExtra askedLate)).owner 4).1 = "A" := by
  refine ⟨⟨?_, ?_, ?_⟩, ?_, ?_, ?_, ?_⟩
  · norm_num [askedLate]
  · simp [askedLate, LeaseCall.isQuery]
  · simp [askedLate, withoutExtra, everyCall, Lease.HoldsPaired]
  all_goals norm_num +decide [askedLate, withoutExtra, everyCall, Lease.answers, Lease.replay,
    LeaseCall.isQuery, Lease.outcome, Lease.acquire, Lease.new, Lease.expireIfStale, Lease.grant,
    Lease.owner, Lease.heartbeat, Except.map, Except.isOk, Except.toBool]

end FlexivControl
