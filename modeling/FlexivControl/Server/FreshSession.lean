/-
A new owner and the cancel flag of the session before.

Only stop and release handlers and forced acquisitions raise the flag. A new owner that
displaces nobody lowers it before it gets its reply; one that displaces another raises it.
-/

import FlexivControl.Server.Authority
import FlexivControl.Server.Footprint
import FlexivControl.Server.StopHeeded

namespace FlexivControl

open Pool Script

variable {K : Type} [Scalar K]

def settleCalls (force : Bool) (prev owner : String) : List (Call (effects K)) :=
  if force ∧ prev ≠ "" ∧ prev ≠ owner then [⟨.cancelSet, ()⟩]
  else if prev ≠ owner then [⟨.cancelClear, ()⟩]
  else []

theorem settleCancel_calls {force : Bool} {prev owner : String} {robot : Robot K} {reply : Reply K}
    {calls : List (Call (effects K))} {out : Except Exc (Reply K) × Robot K}
    (ran : Trace ((do settleCancel force prev owner; pure reply : RobotM K (Reply K)) robot) calls
      (.done out)) : calls = settleCalls force prev owner := by
  unfold settleCancel at ran
  unfold settleCalls
  by_cases displaces : force ∧ prev ≠ "" ∧ prev ≠ owner
  · rw [if_pos displaces] at ran ⊢
    obtain ⟨answer, rest, same, ended⟩ := ran.of_call
    rw [same, Trace.nil_of_done ended]
  · rw [if_neg displaces] at ran ⊢
    by_cases fresh : prev ≠ owner
    · rw [if_pos fresh] at ran ⊢
      obtain ⟨answer, rest, same, ended⟩ := ran.of_call
      rw [same, Trace.nil_of_done ended]
    · rw [if_neg fresh] at ran ⊢
      exact Trace.nil_of_done ran

theorem settleCalls_cancel {force : Bool} {prev owner : String} :
    ∀ c ∈ (settleCalls force prev owner : List (Call (effects K))),
      c = ⟨.cancelSet, ()⟩ ∨ c = ⟨.cancelClear, ()⟩ := by
  intro c member
  unfold settleCalls at member
  split at member
  · exact Or.inl (List.mem_singleton.mp member)
  · split at member
    · exact Or.inr (List.mem_singleton.mp member)
    · cases member

theorem hAcquireLease_calls {owner : String} {force : Bool} {robot : Robot K}
    {calls : List (Call (effects K))} {out : Except Exc (Reply K) × Robot K} {info : String × K}
    (ran : Trace (handle (.acquireLease owner force) robot) calls (.done out))
    (granted : ⟨.leaseAcquire owner force, .ok info⟩ ∈ calls) :
    ∃ prev, calls = [⟨.leaseOwner, prev⟩] ++ ⟨.leaseAcquire owner force, .ok info⟩ ::
      settleCalls force prev info.1 := by
  obtain ⟨prev, rest, calls_eq, later⟩ := Trace.of_call ran
  obtain ⟨answer, rest', rest_eq, settles⟩ := Trace.of_call later
  subst calls_eq rest_eq
  cases answer with
  | error e =>
      have ended : rest' = [] := Trace.nil_of_done settles
      subst ended
      simp only [List.mem_cons, List.not_mem_nil, or_false] at granted
      rcases granted with same | same <;> cases same
  | ok answered =>
      have tail := settleCancel_calls settles
      subst tail
      rcases List.mem_cons.mp granted with same | later
      · cases same
      · rcases List.mem_cons.mp later with same | settled
        · cases same
          exact ⟨prev, rfl⟩
        · rcases settleCalls_cancel _ settled with same | same <;> cases same

def Greeting (owner : String) (force : Bool) (calls : List (Call (effects K))) : Prop :=
  ∃ prev info, calls = [⟨.leaseOwner, prev⟩, ⟨.leaseAcquire owner force, .ok info⟩] ∧
    prev ≠ info.1 ∧ ¬ (force = true ∧ prev ≠ "")

def greetingClears (owner : String) (force : Bool) :
    Monitor (effects K) (List (Call (effects K))) :=
  Monitor.remembering fun calls op => op = .cancelClear ↔ Greeting owner force calls

theorem Greeting.length {owner : String} {force : Bool} {calls : List (Call (effects K))}
    (greeting : Greeting owner force calls) : calls.length = 2 := by
  obtain ⟨prev, info, same, _⟩ := greeting
  rw [same]
  rfl

theorem wp_greetingClears (owner : String) (force : Bool) (robot : Robot K) :
    wp (greetingClears owner force) (handle (.acquireLease owner force)) (fun _ _ _ => True)
      robot [] := by
  have early {op : Op K} {calls : List (Call (effects K))} (other : op ≠ .cancelClear)
      (short : calls.length < 2) : op = .cancelClear ↔ Greeting owner force calls :=
    ⟨fun clears => absurd clears other, fun greeting => absurd greeting.length (by omega)⟩
  change wp _ (hAcquireLease owner force) _ _ _
  unfold hAcquireLease
  rw [wp_bind, wp_op]
  refine ⟨early (fun impossible => by cases impossible) Nat.two_pos, fun prev _ => ?_⟩
  rw [afterStep_ok, wp_bind, wp_op]
  refine ⟨early (fun impossible => by cases impossible) (Nat.lt_succ_self 1), fun granted _ => ?_⟩
  rw [afterStep_ok, wp_bind, wp_attempt]
  cases granted with
  | error e => trivial
  | ok info =>
      rw [afterStep_ok, wp_bind]
      unfold settleCancel
      split
      · rename_i displaces
        refine ⟨⟨fun impossible => (by cases impossible), ?_⟩, fun _ _ => trivial⟩
        rintro ⟨prev', info', same, _, nobody⟩
        cases same
        exact absurd ⟨displaces.1, displaces.2.1⟩ nobody
      · rename_i displaces
        split
        · rename_i stranger
          refine ⟨⟨fun _ => ⟨prev, info, rfl, stranger, ?_⟩, fun _ => rfl⟩, fun _ _ => trivial⟩
          exact fun both => displaces ⟨both.1, both.2, stranger⟩
        · trivial

/-! ### Taking up a flag that is set -/

/-- The flag is up behind `before`, and in the events since then somebody takes it up: a chunk
tests it, a chunk goes on that has found it, or an acquisition goes on to greet its owner. -/
inductive TakenUp (requests : Nat → Request K) (before since : List (ServerEvent K)) : Prop where
  | tested (u : Nat) (site : CancelSite) (found : Bool)
      (tests : (.cancelIsSet site : Op K).TestsForChunk)
      (member : .call u ⟨.cancelIsSet site, found⟩ ∈ since)
  | obeyed (u : Nat) (c : Call (effects K)) (xs ys : List (ServerEvent K))
      (split : since = xs ++ .call u c :: ys) (motion : (requests u).RunsChunk)
      (found : flagTurns.run .clear (callsOf u (before ++ xs)) = .found)
  | greeted (u : Nat) (c : Call (effects K)) (xs ys : List (ServerEvent K)) (owner : String)
      (force : Bool) (split : since = xs ++ .call u c :: ys)
      (acquires : requests u = .acquireLease owner force)
      (greeting : Greeting owner force (callsOf u (before ++ xs)))

section Sessions

variable {requests : Nat → Request K} {start : ServerState K}
  {events before since between later post : List (ServerEvent K)} {b m : Nat} {owner : String}
  {force : Bool} {info : String × K}

theorem ServerRun.permits (run : ServerRun requests start events) {pre : List (ServerEvent K)}
    {v : Nat} {c : Call (effects K)} (split : events = pre ++ .call v c :: post) :
    (requests v).Permits c.op := by
  obtain ⟨q, ran⟩ := run.run.traced v
  have member : c ∈ callsOf v events := by
    rw [callsOf_member, split]
    exact List.mem_append_right pre List.mem_cons_self
  exact handle_calls_permitted ran _ member

theorem ServerRun.found_next (run : ServerRun requests start events) {pre rest : List (ServerEvent K)}
    {v : Nat} {c : Call (effects K)} {calls : List (Call (effects K))}
    (motion : (requests v).RunsChunk) (split : events = pre ++ rest)
    (found : flagTurns.run .clear (callsOf v pre) = .found)
    (next : callsOf v rest = c :: calls) : c = ⟨.cancelClear, ()⟩ := by
  have allowed := run.turns_allowed motion
  rw [split, callsOf_append, Monitor.allowed_append, found, next] at allowed
  exact found_clears allowed.2

theorem ServerRun.greets_iff (run : ServerRun requests start events) {pre : List (ServerEvent K)}
    {v : Nat} {c : Call (effects K)} (split : events = pre ++ .call v c :: post)
    (acquires : requests v = .acquireLease owner force) :
    c.op = .cancelClear ↔ Greeting owner force (callsOf v pre) := by
  have kept : wp (greetingClears owner force) (handle (requests v)) (fun _ _ _ => True)
      start.robot [] := by
    rw [acquires]
    exact wp_greetingClears owner force start.robot
  have now : (greetingClears owner force).allows
      ((greetingClears owner force).run [] (callsOf v pre)) c.op :=
    run.allowed (fun _ _ => trivial) kept split
  rw [greetingClears, Monitor.run_remembering] at now
  exact now

theorem lowered_taken {rest : List (ServerEvent K)}
    (run : ServerRun requests start (before ++ (since ++ rest)))
    (lowered : cancelLatch.LoweredIn since) : TakenUp requests before since := by
  obtain ⟨e, member, u, same⟩ := lowered
  subst same
  obtain ⟨xs, ys, split⟩ := List.append_of_mem member
  have position : before ++ (since ++ rest) =
      (before ++ xs) ++ .call u ⟨.cancelClear, ()⟩ :: (ys ++ rest) := by
    rw [split]
    simp only [List.append_assoc, List.cons_append]
  rcases run.permits position with motion | greets
  · have allowed := run.turns_allowed motion
    rw [position, callsOf_append, callsOf_own] at allowed
    exact .obeyed u _ xs ys split motion allowed.at_call
  · cases acquires : requests u with
    | acquireLease owner force =>
        have greeting := (run.greets_iff position acquires).mp rfl
        exact .greeted u _ xs ys owner force split acquires greeting
    | _ =>
        rw [acquires] at greets
        exact absurd greets id

theorem ServerRun.tester_moves (run : ServerRun requests start events)
    {pre : List (ServerEvent K)} {v : Nat} {site : CancelSite} {found : Bool}
    (split : events = pre ++ .call v ⟨.cancelIsSet site, found⟩ :: post)
    (tests : (.cancelIsSet site : Op K).TestsForChunk) : (requests v).RunsChunk := by
  have permitted := run.permits split
  cases site with
  | entry => exact permitted
  | tick => exact permitted
  | _ => exact absurd tests id

/-- A chunk that has found the flag clears it before another one enters: it has the lock
until its next call. -/
theorem found_is_cleared {u : Nat} {site : CancelSite} {found : Bool} {ys : List (ServerEvent K)}
    (run : ServerRun requests start ((before ++ [.call u ⟨.cancelIsSet site, true⟩]) ++
      (ys ++ .call m ⟨.cancelIsSet .entry, found⟩ :: post)))
    (tests : (.cancelIsSet site : Op K).TestsForChunk) : .call u ⟨.cancelClear, ()⟩ ∈ ys := by
  have motion := run.tester_moves (List.append_assoc _ _ _) tests
  have turn : flagTurns.run .clear (callsOf u (before ++ [.call u ⟨.cancelIsSet site, true⟩])) =
      .found := by
    rw [callsOf_append, callsOf_own, callsOf_nil, Monitor.run_append]
    cases site with
    | entry => rfl
    | tick => rfl
    | _ => exact absurd tests id
  have inside : phaseOf (before ++ [.call u ⟨.cancelIsSet site, true⟩]) u ≠ .idle := by
    have phase : phaseOf (before ++ [.call u ⟨.cancelIsSet site, true⟩]) u = .stopping := by
      rw [phaseOf, callsOf_append, callsOf_own, callsOf_nil, Monitor.run_append]
      cases site with
      | entry => rfl
      | tick => rfl
      | _ => exact absurd tests id
    rw [phase]
    exact fun impossible => by cases impossible
  have held := (run.initial.holder_iff u).mp (run.initial.chunk_holder motion inside)
  cases calls : callsOf u ys with
  | cons c calls' =>
      have next := run.found_next motion rfl turn (by rw [callsOf_append, calls, List.cons_append])
      rw [← callsOf_member, calls, next]
      exact List.mem_cons_self
  | nil =>
      rw [← List.append_assoc] at run
      have tester := (run.initial.holder_iff u).mpr (by
        rw [callsOf_append, calls, List.append_nil]
        exact held)
      have allowed : ((robotLock True).discipline fun _ => True).Allowed false (callsOf m _) :=
        run.lock_allowed fun _ => trivial
      rw [callsOf_append, callsOf_own] at allowed
      have enterer := (run.initial.holder_iff m).mpr (allowed.at_call.2 trivial)
      rw [tester] at enterer
      cases enterer
      rw [List.append_assoc] at run
      have next := run.found_next (c := ⟨.cancelIsSet .entry, found⟩) motion rfl turn (by
        rw [callsOf_append, calls, callsOf_own, List.nil_append])
      cases next

theorem taken_lowers {found : Bool}
    (run : ServerRun requests start
      (before ++ (since ++ .call m ⟨.cancelIsSet .entry, found⟩ :: post)))
    (up : (server.run start before).cancel = true) (taken : TakenUp requests before since) :
    cancelLatch.LoweredIn since := by
  cases taken with
  | obeyed u c xs ys split motion turn =>
      subst split
      have position : before ++ (xs ++ .call u c :: ys ++
          .call m ⟨.cancelIsSet .entry, found⟩ :: post) = (before ++ xs) ++
            (.call u c :: (ys ++ .call m ⟨.cancelIsSet .entry, found⟩ :: post)) := by
        simp only [List.append_assoc, List.cons_append]
      have next := run.found_next motion position turn (callsOf_own u c _)
      subst next
      exact ⟨_, List.mem_append_right xs List.mem_cons_self, u, rfl⟩
  | greeted u c xs ys owner force split acquires greeting =>
      subst split
      have position : before ++ (xs ++ .call u c :: ys ++
          .call m ⟨.cancelIsSet .entry, found⟩ :: post) = (before ++ xs) ++
            .call u c :: (ys ++ .call m ⟨.cancelIsSet .entry, found⟩ :: post) := by
        simp only [List.append_assoc, List.cons_append]
      have clears := (run.greets_iff position acquires).mpr greeting
      obtain ⟨op, answer⟩ := c
      have clears : op = .cancelClear := clears
      subst clears
      exact ⟨_, List.mem_append_right xs List.mem_cons_self, u, rfl⟩
  | tested u site answer tests member =>
      obtain ⟨xs, ys, split⟩ := List.append_of_mem member
      subst split
      have position : before ++ (xs ++ .call u ⟨.cancelIsSet site, answer⟩ :: ys ++
          .call m ⟨.cancelIsSet .entry, found⟩ :: post) =
          ((before ++ xs) ++ [.call u ⟨.cancelIsSet site, answer⟩]) ++ (ys ++
            .call m ⟨.cancelIsSet .entry, found⟩ :: post) := by
        simp only [List.append_assoc, List.cons_append, List.nil_append]
      rw [position] at run
      have seen : answer = (server.run start (before ++ xs)).cancel := by
        have valid := run.run.valid
        rw [List.append_assoc] at valid
        exact valid.enabled_at
      by_contra unlowered
      have set : answer = true := by
        rw [seen, server.run_append]
        refine (cancelLatch.raised_iff _ xs).mpr (Or.inl ⟨up, ?_⟩)
        rintro ⟨e, early, lowers⟩
        exact unlowered ⟨e, List.mem_append_left _ early, lowers⟩
      subst set
      have clears := found_is_cleared run tests
      exact unlowered ⟨_, List.mem_append_right xs (List.mem_cons_of_mem _ clears), u, rfl⟩

/-- The flag that is up behind `before` is found at the next entry unless it is taken up, as
long as nobody raises it again. -/
theorem unsettled_found {found : Bool}
    (run : ServerRun requests start
      (before ++ (since ++ .call m ⟨.cancelIsSet .entry, found⟩ :: post)))
    (up : (server.run start before).cancel = true) (clear : found = false) :
    TakenUp requests before since := by
  have seen : found = (server.run start (before ++ since)).cancel := by
    have valid := run.run.valid
    rw [← List.append_assoc] at valid
    exact valid.enabled_at
  apply lowered_taken run
  by_contra unlowered
  rw [clear, server.run_append] at seen
  exact Bool.false_ne_true (seen.trans
    ((cancelLatch.raised_iff _ since).mpr (Or.inl ⟨up, unlowered⟩)))

/-! ### The first chunk -/

theorem ServerRun.settles (run : ServerRun requests start events)
    (split : events = before ++ .call b ⟨.leaseAcquire owner force, .ok info⟩ ::
      (between ++ .env (.reply b) :: post))
    (acquires : requests b = .acquireLease owner force) {prev : String}
    (looked : .call b ⟨.leaseOwner, prev⟩ ∈ before) :
    callsOf b between = settleCalls force prev info.1 := by
  obtain ⟨out, ran⟩ := run.replied (before ++ .call b ⟨.leaseAcquire owner force, .ok info⟩ ::
    between) b post (by rw [split, List.append_assoc, List.cons_append])
  rw [handlers, acquires, callsOf_append, callsOf_own] at ran
  obtain ⟨prev', calls⟩ := hAcquireLease_calls ran (List.mem_append_right _ List.mem_cons_self)
  obtain ⟨first, _, settled⟩ := only_split (fun c => c.op = .leaseAcquire owner force) calls.symm rfl
    (by
      intro c member acquire
      rw [List.mem_singleton.mp member] at acquire
      cases acquire)
    (by
      intro c member acquire
      rcases settleCalls_cancel c member with same | same <;> rw [same] at acquire <;> cases acquire)
  have same : prev = prev' := by
    have member := callsOf_member.mpr looked
    rw [first] at member
    cases List.mem_singleton.mp member
    rfl
  rw [settled, same]

/-- With no request to stop sent since the reply, who raises the flag came in before it. -/
theorem raiser_is_old (run : ServerRun requests start events) {grant : Call (effects K)}
    (split : events = (before ++ .call b grant :: (between ++ .env (.reply b) :: later)) ++ post)
    (unsent : ∀ v, (requests v).RequestsStop → .env (.receive v) ∉ later)
    {ys zs : List (ServerEvent K)} {v : Nat}
    (made : between ++ .env (.reply b) :: later = ys ++ .call v ⟨.cancelSet, ()⟩ :: zs) :
    .env (.receive v) ∈ before ++ between := by
  have position : events =
      (before ++ .call b grant :: ys) ++ .call v ⟨.cancelSet, ()⟩ :: (zs ++ post) := by
    rw [split, made]
    simp only [List.append_assoc, List.cons_append]
  have stops : (requests v).RequestsStop := run.permits position
  rcases List.mem_append.mp (run.received _ v _ _ position) with earlier | since
  · exact List.mem_append_left _ earlier
  · have inside : .env (.receive v) ∈ between ++ .env (.reply b) :: later := by
      rcases List.mem_cons.mp since with same | early
      · cases same
      · rw [made]
        exact List.mem_append_left _ early
    rcases List.mem_append.mp inside with old | recent
    · exact List.mem_append_right _ old
    · rcases List.mem_cons.mp recent with same | after
      · cases same
      · exact absurd after (unsent v stops)

/-- The chunk is not aborted at its entry: the test there finds the flag clear, and the chunk
reports a stop by the user only behind a later test that finds it. -/
def EntersFreely (found : Bool) (calls : List (Call (effects K))) : Prop :=
  found = false ∧ ∀ report, firstReport calls = some report → report.2 = .user →
    ∃ site, (.cancelIsSet site : Op K).TestsForChunk ∧
      ⟨.cancelIsSet site, true⟩ ∈ beforeReport calls

/-- What was asked before the reply is settled: the stop the acquisition itself requests where
it displaces an owner, the flag it leaves as it is where it saw its own owner, and each stop
that an old handler requests from then on. -/
structure CancelSettled (requests : Nat → Request K) (force : Bool) (prev owner : String)
    (granted : ServerState K) (old : Nat → Prop) (before since : List (ServerEvent K)) : Prop where
  displaced : force = true → prev ≠ "" → prev ≠ owner → TakenUp requests before since
  overlooked : prev = owner → granted.cancel = true → TakenUp requests before since
  older : ∀ ys v zs, since = ys ++ .call v ⟨.cancelSet, ()⟩ :: zs → old v →
    TakenUp requests (before ++ (ys ++ [.call v ⟨.cancelSet, ()⟩])) zs

theorem entersFreely_iff {found : Bool} {pre : List (ServerEvent K)}
    (run : ServerRun requests start (pre ++ .call m ⟨.cancelIsSet .entry, found⟩ :: post)) :
    EntersFreely found (callsOf m post) ↔ found = false := by
  refine ⟨And.left, fun clear => ⟨clear, ?_⟩⟩
  intro report reported user
  by_contra unset
  subst clear
  have allowed := run.turns_allowed (run.tester_moves rfl trivial)
  rw [callsOf_append, callsOf_own, Monitor.allowed_append] at allowed
  refine clear_reports allowed.2.2 ?_ reported user
  intro site tests found
  exact unset ⟨site, tests, found⟩

/-- Behind its own step a new owner's acquisition leaves the flag up exactly where it displaces
an owner, or where it took its owner for the one before and the flag was up. -/
theorem up_after_settling (force : Bool) (prev owner : String) (granted : ServerState K) (b : Nat) :
    (server.run granted ((settleCalls force prev owner).map (.call b))).cancel = true ↔
      (force = true ∧ prev ≠ "" ∧ prev ≠ owner) ∨ (prev = owner ∧ granted.cancel = true) := by
  unfold settleCalls
  by_cases displaces : force = true ∧ prev ≠ "" ∧ prev ≠ owner
  · rw [if_pos displaces]
    exact ⟨fun _ => Or.inl displaces, fun _ => rfl⟩
  · rw [if_neg displaces]
    by_cases stranger : prev ≠ owner
    · rw [if_pos stranger]
      constructor
      · intro impossible
        cases impossible
      · rintro (all | ⟨same, _⟩)
        · exact absurd all displaces
        · exact absurd same stranger
    · rw [if_neg stranger]
      constructor
      · exact fun up => Or.inr ⟨not_not.mp stranger, up⟩
      · rintro (all | ⟨_, up⟩)
        · exact absurd all displaces
        · exact up

theorem callsOf_together {b : Nat} {events : List (ServerEvent K)} {calls : List (Call (effects K))}
    (few : calls.length ≤ 1) (own : callsOf b events = calls) :
    ∃ mine theirs, events = mine ++ calls.map (.call b) ++ theirs := by
  cases calls with
  | nil => exact ⟨[], events, rfl⟩
  | cons c rest =>
      have alone : rest = [] := List.eq_nil_of_length_eq_zero (by simpa using few)
      subst alone
      have own : callsOf b events = [] ++ c :: [] := own
      obtain ⟨mine, theirs, split, _, _⟩ := callsOf_split own
      exact ⟨mine, theirs, by rw [split]; simp⟩

theorem up_after_raise (before ys : List (ServerEvent K)) (v : Nat) :
    (server.run start (before ++ (ys ++ [.call v ⟨.cancelSet, ()⟩]))).cancel = true := by
  rw [← List.append_assoc, server.run_append]
  rfl

/-- With no request to stop sent since an owner was answered, its chunk enters freely exactly
if whatever was asked before is settled by then; an acquisition that sees another owner and
displaces none has settled what it found itself. -/
theorem first_chunk_enters_iff (run : ServerRun requests start events) {found : Bool}
    (split : events = before ++ .call b ⟨.leaseAcquire owner force, .ok info⟩ ::
      (between ++ .env (.reply b) :: (later ++ .call m ⟨.cancelIsSet .entry, found⟩ :: post)))
    (acquires : requests b = .acquireLease owner force) {prev : String}
    (looked : .call b ⟨.leaseOwner, prev⟩ ∈ before)
    (unsent : ∀ v, (requests v).RequestsStop → .env (.receive v) ∉ later) :
    ∃ mine theirs, between = mine ++ (settleCalls force prev info.1).map (.call b) ++ theirs ∧
      (EntersFreely found (callsOf m post) ↔
        CancelSettled requests force prev info.1 (server.run start (before ++
            .call b ⟨.leaseAcquire owner force, .ok info⟩ :: mine))
          (fun v => .env (.receive v) ∈ before ++ between)
          (before ++ .call b ⟨.leaseAcquire owner force, .ok info⟩ ::
            (mine ++ (settleCalls force prev info.1).map (.call b)))
          (theirs ++ .env (.reply b) :: later)) := by
  have few : (settleCalls force prev info.1 : List (Call (effects K))).length ≤ 1 := by
    unfold settleCalls
    split_ifs <;> simp
  obtain ⟨mine, theirs, parts⟩ := callsOf_together few (run.settles split acquires looked)
  refine ⟨mine, theirs, parts, ?_⟩
  have position : events = (before ++ .call b ⟨.leaseAcquire owner force, .ok info⟩ ::
      (mine ++ (settleCalls force prev info.1).map (.call b))) ++
        ((theirs ++ .env (.reply b) :: later) ++ .call m ⟨.cancelIsSet .entry, found⟩ :: post) := by
    rw [split, parts]
    simp only [List.append_assoc, List.cons_append]
  have old {ys zs : List (ServerEvent K)} {v : Nat}
      (made : theirs ++ .env (.reply b) :: later = ys ++ .call v ⟨.cancelSet, ()⟩ :: zs) :
      .env (.receive v) ∈ before ++ between := by
    have regrouped : events = (before ++ .call b ⟨.leaseAcquire owner force, .ok info⟩ ::
        (between ++ .env (.reply b) :: later)) ++ .call m ⟨.cancelIsSet .entry, found⟩ :: post := by
      rw [split]
      simp only [List.append_assoc, List.cons_append]
    have earlier : between ++ .env (.reply b) :: later =
        (mine ++ (settleCalls force prev info.1).map (.call b) ++ ys) ++
          .call v ⟨.cancelSet, ()⟩ :: zs := by
      rw [parts, List.append_assoc, made, List.append_assoc _ ys]
    exact raiser_is_old run regrouped unsent earlier
  have settles := up_after_settling force prev info.1
    (server.run start (before ++ .call b ⟨.leaseAcquire owner force, .ok info⟩ :: mine)) b
  rw [← server.run_append, List.append_assoc, List.cons_append] at settles
  rw [position] at run
  generalize before ++ .call b ⟨.leaseAcquire owner force, .ok info⟩ ::
    (mine ++ (settleCalls force prev info.1).map (.call b)) = settled at run settles ⊢
  generalize theirs ++ .env (.reply b) :: later = since at run old ⊢
  have regroup (ys zs : List (ServerEvent K)) (v : Nat) :
      settled ++ ((ys ++ .call v ⟨.cancelSet, ()⟩ :: zs) ++
        .call m ⟨.cancelIsSet .entry, found⟩ :: post) =
      (settled ++ (ys ++ [.call v ⟨.cancelSet, ()⟩])) ++
        (zs ++ .call m ⟨.cancelIsSet .entry, found⟩ :: post) := by
    simp only [List.append_assoc, List.cons_append, List.nil_append]
  have entry := run
  rw [← List.append_assoc] at entry
  rw [entersFreely_iff entry]
  constructor
  · intro clear
    constructor
    · intro forced held stranger
      exact unsettled_found run (settles.mpr (Or.inl ⟨forced, held, stranger⟩)) clear
    · intro same up
      exact unsettled_found run (settles.mpr (Or.inr ⟨same, up⟩)) clear
    · intro ys v zs made _
      rw [made, regroup] at run
      exact unsettled_found run (up_after_raise settled ys v) clear
  · intro settledBy
    have seen : found = (server.run start (settled ++ since)).cancel := entry.run.valid.enabled_at
    rw [seen, server.run_append, Bool.eq_false_iff]
    intro set
    rcases (cancelLatch.raised_iff _ since).mp set with ⟨up, unlowered⟩ | raised
    · apply unlowered
      apply taken_lowers run up
      rcases settles.mp up with ⟨forced, held, stranger⟩ | ⟨same, before_up⟩
      · exact settledBy.displaced forced held stranger
      · exact settledBy.overlooked same before_up
    · obtain ⟨ys, e, zs, made, ⟨v, same⟩, unlowered⟩ := raised
      subst same
      have taken := settledBy.older ys v zs made (old made)
      rw [made, regroup] at run
      exact unlowered (taken_lowers run (up_after_raise settled ys v) taken)

end Sessions

noncomputable def sessions (force : Bool) : Nat → Request ℝ
  | 0 => .acquireLease "A" false
  | 1 => .releaseLease "A"
  | 2 => .acquireLease "B" force
  | 3 => .executeJointChunk "B" (.ok twoTicks)
  | _ => .ping

noncomputable def releases (thread : Nat) (owner : String) : List (ServerEvent ℝ) :=
  [.env (.receive thread), .call thread ⟨.leaseRelease owner, .ok ()⟩,
    .call thread ⟨.lockAcquire, freshServer.robot⟩, .call thread ⟨.loopTake, none⟩,
    .call thread ⟨.lockRelease freshServer.robot, ()⟩,
    .call thread ⟨.lockAcquire, freshServer.robot⟩, .call thread ⟨.cancelSet, ()⟩,
    .call thread ⟨.write .stop, .ok ()⟩, .call thread ⟨.lockRelease freshServer.robot, ()⟩]

noncomputable def chunkEnters : List (ServerEvent ℝ) :=
  .env (.receive 3) :: (entersMotion "B" 2 freshServer.robot ++
    ([⟨.facadeOwner, some "B"⟩] : List (Call (effects ℝ)))).map (.call 3)

noncomputable def releasedByA : List (ServerEvent ℝ) :=
  acquires 0 "A" 0 ++ releases 1 "A" ++ [.env (.receive 2), .call 2 ⟨.leaseOwner, ""⟩]

noncomputable def chunkSucceeds : List (Call (effects ℝ)) :=
  [⟨.readState, .ok zeroed⟩, ⟨.publishState zeroed, ()⟩, ⟨.perfCounter, (0 : ℝ)⟩] ++
    ((List.replicate 2 (clearTick zeroed (uniform 0))).flatten ++
      [⟨.readState, .ok zeroed⟩, ⟨.publishState zeroed, ()⟩, ⟨.chunkReturns true .none, ()⟩])

noncomputable def freshEntry : List (ServerEvent ℝ) :=
  releasedByA ++ .call 2 ⟨.leaseAcquire "B" false, .ok ("B", 2)⟩ ::
    ([.call 2 ⟨.cancelClear, ()⟩] ++ .env (.reply 2) ::
      (chunkEnters ++ .call 3 ⟨.cancelIsSet .entry, false⟩ :: chunkSucceeds.map (.call 3)))

theorem replied_once {requests : Nat → Request ℝ} {robot : Robot ℝ} {t : Nat}
    {before after : List (ServerEvent ℝ)} (first : ∀ u, .env (.reply u) ∉ before)
    (last : ∀ u, .env (.reply u) ∉ after)
    (finished : ∃ out, Trace (handlers requests robot t) (callsOf t before) (.done out)) :
    ∀ pre thread post, before ++ .env (.reply t) :: after = pre ++ .env (.reply thread) :: post →
      ∃ out, Trace (handlers requests robot thread) (callsOf thread pre) (.done out) := by
  intro pre thread post split
  obtain ⟨front, same, _⟩ := only_split (fun e => ∃ u, e = .env (.reply u)) split ⟨thread, rfl⟩
    (by
      rintro e member ⟨u, same⟩
      exact first u (same ▸ member))
    (by
      rintro e member ⟨u, same⟩
      exact last u (same ▸ member))
  cases same
  rw [front]
  exact finished

theorem executeJointChunk_succeeds :
    ∃ q, Trace (executeJointChunk twoTicks false freshServer.robot)
      ([⟨.facadeOwner, some "B"⟩, ⟨.cancelIsSet .entry, false⟩] ++ chunkSucceeds) q := by
  have rest : freshServer.robot.anchored.AtRest := ⟨rfl, rfl, Or.inl rfl⟩
  obtain ⟨clipped, robot, _, _, ticks⟩ :=
    jointTicks_rest 2 rest (twoTicks.report freshServer.robot)
  rw [← twoTicks_setpoints] at ticks
  exact ⟨_, executeJointChunk_trace (Or.inl rfl) "B" ticks⟩

theorem freshEntry_run : ServerRun (sessions false) freshServer freshEntry where
  started := ⟨rfl, rfl, rfl, rfl, rfl⟩
  run := by
    constructor
    · norm_num +decide [freshEntry, releasedByA, chunkEnters, chunkSucceeds, releases, acquires,
        entersMotion, clearTick, List.replicate, Machine.Valid, server, ServerState.Enabled,
        ServerState.Answers, ServerState.next, ServerState.afterCall, ServerState.afterMove,
        freshServer, Lease.acquire, Lease.owner, Lease.check, Lease.heartbeat, Lease.holdEnter,
        Lease.release, Lease.expireIfStale, Lease.grant, Lease.verify, Except.map]
    · have named : "B" ≠ "" := by decide
      have moves := executeJointChunk_entered freshServer.robot named 2 executeJointChunk_succeeds
      rintro (_ | _ | _ | _ | _)
      · exact ⟨_, .cons (.cons (.cons (.nil _)))⟩
      · exact ⟨_, .cons (.cons (.cons (.cons (.cons (.cons (.cons (.cons (.nil _))))))))⟩
      · exact ⟨_, .cons (.cons (.cons (.nil _)))⟩
      · exact moves
      · exact ⟨_, .nil _⟩
  received := by
    intro pre thread c post split
    have orderly : Orderly [] freshEntry := by
      norm_num [Orderly, freshEntry, releasedByA, chunkEnters, chunkSucceeds, releases, acquires,
        entersMotion, clearTick, List.replicate]
    exact (orderly.received split).resolve_left List.not_mem_nil
  replied := by
    intro pre thread post split
    have regrouped : (releasedByA ++ [.call 2 ⟨.leaseAcquire "B" false, .ok ("B", 2)⟩,
        .call 2 ⟨.cancelClear, ()⟩]) ++ .env (.reply 2) ::
          (chunkEnters ++ .call 3 ⟨.cancelIsSet .entry, false⟩ :: chunkSucceeds.map (.call 3)) =
        pre ++ .env (.reply thread) :: post := split
    have finished : ∃ out, Trace (handlers (sessions false) freshServer.robot 2)
        (callsOf 2 (releasedByA ++ [.call 2 ⟨.leaseAcquire "B" false, .ok ("B", 2)⟩,
          .call 2 ⟨.cancelClear, ()⟩])) (.done out) := ⟨_, .cons (.cons (.cons (.nil _)))⟩
    refine replied_once ?_ ?_ finished pre thread post regrouped
    · intro u member
      simp [releasedByA, releases, acquires] at member
    · intro u member
      simp [chunkEnters, chunkSucceeds, clearTick, List.replicate, entersMotion] at member

theorem chunkEnters_unsent (force : Bool) :
    ∀ v, (sessions force v).RequestsStop → .env (.receive v) ∉ chunkEnters := by
  intro v stops member
  have third : v = 3 := by simpa [chunkEnters, entersMotion] using member
  subst third
  exact stops

/-- The flag was up when B looked for the owner, and the chunk runs to its end. -/
theorem first_chunk_enters_released :
    (server.run freshServer releasedByA).cancel = true ∧
      EntersFreely false (callsOf 3 (chunkSucceeds.map (.call 3) : List (ServerEvent ℝ))) ∧
      firstReport (callsOf 3 (chunkSucceeds.map (.call 3) : List (ServerEvent ℝ))) =
        some (true, .none) := by
  refine ⟨?_, ?_, rfl⟩
  · norm_num +decide [releasedByA, releases, acquires, Machine.run, server, ServerState.next,
      ServerState.afterCall, ServerState.afterMove]
  · have looked : .call 2 ⟨.leaseOwner, ""⟩ ∈ releasedByA := List.mem_append_right _ (by simp)
    obtain ⟨mine, theirs, parts, decided⟩ := first_chunk_enters_iff freshEntry_run rfl rfl looked
      (chunkEnters_unsent false)
    have greets : settleCalls false "" ("B", (2 : ℝ)).1 = [(⟨.cancelClear, ()⟩ : Call (effects ℝ))] :=
      rfl
    rw [greets] at parts decided
    refine decided.mpr ⟨fun forced => (by cases forced), fun same => absurd same (by decide), ?_⟩
    intro ys v zs made _
    have few := congrArg List.length parts
    simp only [List.length_append, List.length_map, List.length_singleton] at few
    have alone : theirs = [] := List.eq_nil_of_length_eq_zero (by omega)
    rw [alone] at made
    have member : .call v ⟨.cancelSet, ()⟩ ∈ [] ++ .env (.reply 2) :: chunkEnters :=
      made ▸ List.mem_append_right ys List.mem_cons_self
    simp [chunkEnters, entersMotion] at member

noncomputable def displacesIdle : List (ServerEvent ℝ) :=
  acquires 0 "A" 0 ++ [.env (.receive 2), .call 2 ⟨.leaseOwner, "A"⟩]

noncomputable def abortsAtEntry : List (Call (effects ℝ)) :=
  [⟨.cancelClear, ()⟩, ⟨.readState, .ok zeroed⟩, ⟨.publishState zeroed, ()⟩,
    ⟨.chunkReturns false .user, ()⟩]

noncomputable def staleEntry : List (ServerEvent ℝ) :=
  displacesIdle ++ .call 2 ⟨.leaseAcquire "B" true, .ok ("B", 2)⟩ ::
    ([.call 2 ⟨.cancelSet, ()⟩] ++ .env (.reply 2) ::
      (chunkEnters ++ .call 3 ⟨.cancelIsSet .entry, true⟩ :: abortsAtEntry.map (.call 3)))

theorem executeJointChunk_aborts (robot : Robot ℝ) :
    ∃ q, Trace (executeJointChunk twoTicks false robot)
      ([⟨.facadeOwner, some "B"⟩, ⟨.cancelIsSet .entry, true⟩] ++ abortsAtEntry) q :=
  ⟨_, .cons (.cons (.cons (.cons (.cons (.cons (.nil _))))))⟩

theorem staleEntry_run : ServerRun (sessions true) freshServer staleEntry where
  started := ⟨rfl, rfl, rfl, rfl, rfl⟩
  run := by
    constructor
    · norm_num +decide [staleEntry, displacesIdle, chunkEnters, abortsAtEntry, acquires,
        entersMotion, Machine.Valid, server, ServerState.Enabled, ServerState.Answers,
        ServerState.next, ServerState.afterCall, ServerState.afterMove, freshServer, Lease.acquire,
        Lease.owner, Lease.check, Lease.heartbeat, Lease.holdEnter, Lease.expireIfStale,
        Lease.grant, Lease.verify, Except.map]
    · have named : "B" ≠ "" := by decide
      have moves := executeJointChunk_entered freshServer.robot named 2
        (executeJointChunk_aborts freshServer.robot)
      rintro (_ | _ | _ | _ | _)
      · exact ⟨_, .cons (.cons (.cons (.nil _)))⟩
      · exact ⟨_, .nil _⟩
      · exact ⟨_, .cons (.cons (.cons (.nil _)))⟩
      · exact moves
      · exact ⟨_, .nil _⟩
  received := by
    intro pre thread c post split
    have orderly : Orderly [] staleEntry := by
      norm_num [Orderly, staleEntry, displacesIdle, chunkEnters, abortsAtEntry, acquires,
        entersMotion]
    exact (orderly.received split).resolve_left List.not_mem_nil
  replied := by
    intro pre thread post split
    have regrouped : (displacesIdle ++ [.call 2 ⟨.leaseAcquire "B" true, .ok ("B", 2)⟩,
        .call 2 ⟨.cancelSet, ()⟩]) ++ .env (.reply 2) ::
          (chunkEnters ++ .call 3 ⟨.cancelIsSet .entry, true⟩ :: abortsAtEntry.map (.call 3)) =
        pre ++ .env (.reply thread) :: post := split
    have finished : ∃ out, Trace (handlers (sessions true) freshServer.robot 2)
        (callsOf 2 (displacesIdle ++ [.call 2 ⟨.leaseAcquire "B" true, .ok ("B", 2)⟩,
          .call 2 ⟨.cancelSet, ()⟩])) (.done out) := ⟨_, .cons (.cons (.cons (.nil _)))⟩
    refine replied_once ?_ ?_ finished pre thread post regrouped
    · intro u member
      simp [displacesIdle, acquires] at member
    · intro u member
      simp [chunkEnters, abortsAtEntry, entersMotion] at member

/-- The first chunk of a new owner is aborted at its entry, with nobody asking for a stop
since the owner was answered. -/
theorem first_chunk_aborted_after_steal :
    ∃ before between later post, ServerRun (sessions true) freshServer
        (before ++ .call 2 ⟨.leaseAcquire "B" true, .ok ("B", 2)⟩ :: (between ++ .env (.reply 2) ::
          (later ++ .call 3 ⟨.cancelIsSet .entry, true⟩ :: post))) ∧
      (server.run freshServer before).holder = some "A" ∧
      (∀ v, (sessions true v).RequestsStop → .env (.receive v) ∉ later) ∧
      sessions true 3 = .executeJointChunk "B" (.ok twoTicks) ∧
      firstReport (callsOf 3 post) = some (false, .user) := by
  refine ⟨displacesIdle, [.call 2 ⟨.cancelSet, ()⟩], chunkEnters, abortsAtEntry.map (.call 3),
    staleEntry_run, ?_, chunkEnters_unsent true, rfl, rfl⟩
  norm_num +decide [displacesIdle, acquires, Machine.run, server, ServerState.next,
    ServerState.afterCall, ServerState.afterMove, freshServer, ServerState.holder, Lease.holder,
    Lease.owner, Lease.expireIfStale, Lease.acquire, Lease.grant]

end FlexivControl
