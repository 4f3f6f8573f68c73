/-
The servo loop and the lease.

A start handler installs the loop some time after it has seen its owner hold the lease. As
long as the lease is refreshed in time and a release takes the loop with it, whoever finds
a loop in the slot finds somebody holding the lease.
-/

import FlexivControl.Server.Authority
import FlexivControl.Server.Footprint
import FlexivControl.Server.LeaseRuns

namespace FlexivControl

open Pool Script

variable {K : Type} [Scalar K]

namespace ServerState

def leaseCall : Op K → Option LeaseCall
  | .leaseOwner => some .owner
  | .leaseAcquire owner force => some (.acquire owner force)
  | .leaseHeartbeat owner => some (.heartbeat owner)
  | .leaseRelease owner => some (.release owner)
  | .leaseCheck owner => some (.check owner)
  | .holdEnter owner => some (.holdEnter owner)
  | .holdExit owner => some (.holdExit owner)
  | _ => none

theorem afterCall_lease (s : ServerState K) (t : Nat) (c : Call (effects K)) :
    (s.afterCall t c).lease = match leaseCall c.op with
      | none => s.lease
      | some call => (s.lease.outcome s.now call).2 := by
  obtain ⟨op, answer⟩ := c
  cases op with
  | lockTryAcquire => cases answer <;> rfl
  | _ => rfl

theorem afterCall_now (s : ServerState K) (t : Nat) (c : Call (effects K)) :
    (s.afterCall t c).now = s.now := by
  obtain ⟨op, answer⟩ := c
  cases op with
  | lockTryAcquire => cases answer <;> rfl
  | _ => rfl

theorem afterCall_steps (s : ServerState K) (t : Nat) (c : Call (effects K)) :
    (s.afterCall t c).lease = s.lease ∨
      ∃ e : LeaseEvent K, e.now = s.now ∧ s.lease.Steps (s.afterCall t c).lease e := by
  rw [afterCall_lease]
  cases leaseCall c.op with
  | none => exact Or.inl rfl
  | some call =>
      right
      let e : LeaseEvent K := ⟨s.now, call, (s.lease.outcome s.now call).1.isOk⟩
      have answered : e.returned = true ↔ (s.lease.outcome e.now e.call).1 = .ok () := by
        change (s.lease.outcome s.now call).1.isOk = true ↔ (s.lease.outcome s.now call).1 = .ok ()
        cases (s.lease.outcome s.now call).1 with
        | error e =>
            constructor
            · intro impossible
              cases impossible
            · intro impossible
              cases impossible
        | ok a => exact ⟨fun _ => rfl, fun _ => rfl⟩
      exact ⟨e, rfl, Lease.steps_after answered⟩

def Leased (s : ServerState K) : Prop := ∃ owner, s.lease.RecordedFor owner

theorem held_of_leased {s : ServerState K} (leased : s.Leased) (current : ¬ s.Lapsed) :
    s.holder ≠ none := by
  obtain ⟨owner, recorded⟩ := leased
  have held : s.holder = some owner := Lease.holder_eq_some.mpr ⟨recorded, current⟩
  rw [held]
  exact Option.some_ne_none owner

theorem leased_of_held {s : ServerState K} {owner : String} (held : s.holder = some owner) :
    s.Leased := ⟨owner, (Lease.holder_eq_some.mp held).1⟩

theorem next_ttl (s : ServerState K) (e : ServerEvent K) : (s.next e).lease.ttl = s.lease.ttl := by
  cases e with
  | env move => cases move <;> rfl
  | call t c =>
      rcases s.afterCall_steps t c with same | ⟨e, _, steps⟩
      · exact congrArg Lease.ttl same
      · exact steps.sameTtl

/-- A forced acquisition changes the owner, but leaves one. -/
theorem next_leased {s : ServerState K} {e : ServerEvent K} (enabled : s.Enabled e)
    (leased : s.Leased) (current : ¬ s.Lapsed)
    (unreleased : ∀ owner, ¬ ServerEvent.Releases owner e) : (s.next e).Leased := by
  obtain ⟨owner, recorded⟩ := leased
  by_cases forced : ServerEvent.Forces e
  · cases e with
    | env move => exact absurd forced id
    | call t c =>
        obtain ⟨op, answer⟩ := c
        cases op with
        | leaseAcquire other force =>
            change ∃ owner, (s.lease.acquire other force s.now).2.RecordedFor owner
            rcases Lease.acquire_cases s.lease other force s.now with
              ⟨_, _, same | expired⟩ | granted
            · rw [same]
              exact ⟨owner, recorded⟩
            · rw [expired, Lease.expireIfStale_of_current current]
              exact ⟨owner, recorded⟩
            · rw [granted]
              exact ⟨other, _, rfl, rfl⟩
        | _ => exact absurd forced id
  · exact ⟨owner, next_keeps_record enabled recorded current forced (unreleased owner)⟩

def InTime (s : ServerState ℝ) : Prop :=
  ∀ info, s.lease.info = some info → s.now ≤ info.expiresAt

theorem InTime.current {s : ServerState ℝ} (inTime : s.InTime) : ¬ s.Lapsed := by
  intro lapsed
  obtain ⟨_, info, recorded, stale⟩ := lapsed
  exact absurd (inTime info recorded) (not_le.mpr stale)

/-- Only a clock step can take a lease with a time to live past its expiry. -/
theorem next_inTime {s : ServerState ℝ} {e : ServerEvent ℝ} (ttl : 0 ≤ s.lease.ttl)
    (inTime : s.InTime) (clock : ∀ now, e = .env (.elapse now) → (s.next e).InTime) :
    (s.next e).InTime := by
  cases e with
  | env move =>
      cases move with
      | elapse now => exact clock now rfl
      | _ => exact inTime
  | call t c =>
      intro info found
      change (s.afterCall t c).lease.info = some info at found
      change (s.afterCall t c).now ≤ info.expiresAt
      rw [afterCall_now]
      rcases s.afterCall_steps t c with same | ⟨e, now, steps⟩
      · rw [same] at found
        exact inTime info found
      · rcases steps.record info found with ⟨_, expires⟩ | ⟨_, before⟩
        · rw [expires, now]
          exact le_add_of_nonneg_right ttl
        · exact inTime info before

end ServerState

/-- The thread has released a lease and has not taken the loop since. -/
def Releasing (events : List (ServerEvent K)) (t : Nat) : Prop :=
  ∃ earlier owner later, callsOf t events = earlier ++ ⟨.leaseRelease owner, .ok ()⟩ :: later ∧
    ∀ taken, ⟨.loopTake, taken⟩ ∉ later

theorem releasing_of_release {pre : List (ServerEvent K)} {t : Nat} {owner : String} :
    Releasing (pre ++ [.call t ⟨.leaseRelease owner, .ok ()⟩]) t := by
  refine ⟨callsOf t pre, owner, [], ?_, fun _ => List.not_mem_nil⟩
  rw [callsOf_append, callsOf_own, callsOf_nil]

theorem Releasing.later {pre since : List (ServerEvent K)} {t : Nat} (releasing : Releasing pre t)
    (untaken : ∀ taken, .call t ⟨.loopTake, taken⟩ ∉ since) : Releasing (pre ++ since) t := by
  obtain ⟨earlier, owner, later, calls, left⟩ := releasing
  refine ⟨earlier, owner, later ++ callsOf t since, ?_, ?_⟩
  · rw [callsOf_append, calls, List.append_assoc, List.cons_append]
  · intro taken member
    rcases List.mem_append.mp member with before | after
    · exact left taken before
    · exact untaken taken (callsOf_member.mp after)

/-! ### Who installs a loop -/

/-- Whoever installs a loop does it for an owner, and does not release the lease. -/
theorem installs_for_owner {request : Request K} {robot : Robot K} {calls : List (Call (effects K))}
    {q : Program (effects K) (Except Exc (Reply K) × Robot K)}
    (ran : Trace (handle request robot) calls q) {controlHz : Option K} {loop : Nat}
    (installs : ⟨.loopInstall controlHz, loop⟩ ∈ calls) :
    ∃ owner, request.owner = some owner ∧ request ≠ .releaseLease owner := by
  have starts : request.StartsLoop := handle_calls_permitted ran _ installs
  cases request with
  | startServoLoop owner hz => exact ⟨owner, rfl, fun impossible => by cases impossible⟩
  | _ => exact absurd starts id

theorem server_keeps_leased {s : ServerState K} {events : List (ServerEvent K)}
    (valid : server.Valid s events) (leased : s.Leased)
    (unreleased : ∀ e ∈ events, ∀ owner, ¬ ServerEvent.Releases owner e)
    (current : server.Throughout (fun s => ¬ s.Lapsed) s events) :
    (server.run s events).Leased := by
  induction events generalizing s with
  | nil => exact leased
  | cons e rest ih =>
      rw [List.forall_mem_cons] at unreleased
      have kept : (s.next e).Leased :=
        ServerState.next_leased valid.1 leased current.first unreleased.1
      exact ih valid.2 kept unreleased.2 current.2

theorem next_servoLoop {s : ServerState K} {e : ServerEvent K}
    (untaken : ∀ t taken, e ≠ .call t ⟨.loopTake, taken⟩)
    (uninstalled : ∀ t controlHz loop, e ≠ .call t ⟨.loopInstall controlHz, loop⟩) :
    (s.next e).servoLoop = s.servoLoop := by
  cases e with
  | env move => cases move <;> rfl
  | call t c =>
      obtain ⟨op, answer⟩ := c
      cases op with
      | loopTake => exact absurd rfl (untaken t answer)
      | loopInstall controlHz => exact absurd rfl (uninstalled t controlHz answer)
      | lockTryAcquire => cases answer <;> rfl
      | _ => rfl

theorem ServerEvent.Releases.call {e : ServerEvent K} {owner : String}
    (releases : ServerEvent.Releases owner e) :
    ∃ t, e = .call t ⟨.leaseRelease owner, .ok ()⟩ := by
  cases e with
  | env move => exact absurd releases id
  | call t c =>
      obtain ⟨op, answer⟩ := c
      cases op with
      | leaseRelease other =>
          obtain ⟨same, passed⟩ := releases
          have returned : answer = .ok () := passed
          subst same
          subst returned
          exact ⟨t, rfl⟩
      | _ => exact absurd releases id

theorem server_run_ttl (s : ServerState K) (events : List (ServerEvent K)) :
    (server.run s events).lease.ttl = s.lease.ttl := by
  induction events generalizing s with
  | nil => rfl
  | cons e rest ih =>
      rw [Machine.run_cons, ih]
      exact s.next_ttl e

/-- From the start handler's check until its loop is in the slot, no release drops the
lease and passes the slot, and the lease does not run out. -/
structure StartedInTime (start : ServerState ℝ) (before since : List (ServerEvent ℝ)) : Prop where
  untaken : ∀ t owner taken, .call t ⟨.leaseRelease owner, .ok ()⟩ ∈ since →
    .call t ⟨.loopTake, taken⟩ ∉ since
  current : server.Throughout (fun s => ¬ s.Lapsed) (server.run start before) since
  inTime : (server.run start (before ++ since)).InTime

theorem LastSeen.covered {t : Nat} {owner : String} {pre before since : List (ServerEvent ℝ)}
    {start : ServerState ℝ} (found : LastSeen t owner pre before since)
    (valid : server.Valid start pre) (started : StartedInTime start before since) :
    (∃ u, Releasing pre u) ∨ (server.run start pre).Leased := by
  obtain ⟨split, ⟨earlier, c, ended, confirms⟩, _⟩ := found
  subst split
  by_cases released : ∃ u other, .call u ⟨.leaseRelease other, .ok ()⟩ ∈ since
  · left
    obtain ⟨u, other, member⟩ := released
    refine ⟨u, ?_⟩
    obtain ⟨xs, ys, split⟩ := List.append_of_mem member
    have untaken : ∀ taken, .call u ⟨.loopTake, taken⟩ ∉ ys := by
      intro taken later
      apply started.untaken u other taken member
      rw [split]
      exact List.mem_append_right xs (List.mem_cons_of_mem _ later)
    rw [split, ← List.append_assoc, List.append_cons]
    exact releasing_of_release.later untaken
  · right
    rw [Machine.valid_append] at valid
    rw [Machine.run_append]
    apply server_keeps_leased valid.2
    · subst ended
      have answered := valid.1.enabled_at
      rw [Machine.run_append]
      exact ServerState.leased_of_held (ServerState.holder_of_confirms answered confirms)
    · intro e member other releases
      obtain ⟨u, same⟩ := releases.call
      subst same
      exact released ⟨u, other, member⟩
    · exact started.current

theorem installer_covered {requests : Nat → Request ℝ} {start : ServerState ℝ}
    {events pre post : List (ServerEvent ℝ)} (run : ServerRun requests start events) {t : Nat}
    {controlHz : Option ℝ} {loop : Nat}
    (split : events = pre ++ .call t ⟨.loopInstall controlHz, loop⟩ :: post)
    (started : ∀ pre t controlHz loop post owner,
      events = pre ++ .call t ⟨.loopInstall controlHz, loop⟩ :: post →
        (requests t).owner = some owner →
          ∀ before since, LastSeen t owner pre before since → StartedInTime start before since) :
    (∃ u, Releasing pre u) ∨ ((server.run start pre).Leased ∧ (server.run start pre).InTime) := by
  obtain ⟨q, ran⟩ := run.run.traced t
  have installs : ⟨.loopInstall controlHz, loop⟩ ∈ callsOf t events := by
    rw [callsOf_member, split]
    exact List.mem_append_right pre List.mem_cons_self
  obtain ⟨owner, made_for, keeps⟩ := installs_for_owner ran installs
  have may_act := run.allowed (fun _ _ => trivial) (handle_confirms made_for keeps start.robot) split
  rcases confirmation_run (may_act trivial) with impossible | seen
  · exact absurd impossible id
  · obtain ⟨before, since, found⟩ := exists_lastSeen seen
    have in_time := started pre t controlHz loop post owner split made_for before since found
    rw [split] at run
    rcases found.covered run.initial.run.valid in_time with releasing | leased
    · exact Or.inl releasing
    · right
      refine ⟨leased, ?_⟩
      rw [found.split]
      exact in_time.inTime

/-- Whoever finds a loop in the slot finds somebody holding the lease, or a release on its
way to the slot, in every run in which every loop is started in time and the clock does not
pass the recorded lease's expiry while a loop is in the slot. -/
theorem installed_loop_is_leased {requests : Nat → Request ℝ} {start : ServerState ℝ}
    {events : List (ServerEvent ℝ)} (run : ServerRun requests start events)
    (ttl : 0 ≤ start.lease.ttl)
    (started : ∀ pre t controlHz loop post owner,
      events = pre ++ .call t ⟨.loopInstall controlHz, loop⟩ :: post →
        (requests t).owner = some owner →
          ∀ before since, LastSeen t owner pre before since → StartedInTime start before since)
    (clock : ∀ pre now post, events = pre ++ .env (.elapse now) :: post →
      (server.run start pre).servoLoop ≠ none →
        ∀ info, (server.run start pre).lease.info = some info → now ≤ info.expiresAt) :
    ∀ pre post, events = pre ++ post → (server.run start pre).servoLoop ≠ none →
      (∃ t, Releasing pre t) ∨ (server.run start pre).holder ≠ none := by
  suffices invariant : ∀ pre post, events = pre ++ post →
      (server.run start pre).servoLoop ≠ none → (∃ t, Releasing pre t) ∨
        ((server.run start pre).Leased ∧ (server.run start pre).InTime) by
    intro pre post split installed
    rcases invariant pre post split installed with releasing | ⟨leased, inTime⟩
    · exact Or.inl releasing
    · exact Or.inr (ServerState.held_of_leased leased inTime.current)
  intro pre
  induction pre using List.reverseRecOn with
  | nil => exact fun post split installed => absurd run.started.noLoop installed
  | append_singleton pre e ih =>
      intro post split installed
      rw [List.append_assoc, List.singleton_append] at split
      have before := ih (e :: post) split
      have enabled : (server.run start pre).Enabled e := by
        have valid := run.run.valid
        rw [split] at valid
        exact valid.enabled_at
      have still_lasting : (server.run start pre).lease.ttl = start.lease.ttl := server_run_ttl _ _
      rw [Machine.run_append] at installed ⊢
      change ((server.run start pre).next e).servoLoop ≠ none at installed
      change _ ∨ ((server.run start pre).next e).Leased ∧ ((server.run start pre).next e).InTime
      generalize reached : server.run start pre = s at *
      have untaken : ∀ t taken, e ≠ .call t ⟨.loopTake, taken⟩ := by
        intro t taken same
        subst same
        exact installed rfl
      have unsettled {t : Nat} (releasing : Releasing pre t) : Releasing (pre ++ [e]) t := by
        apply releasing.later
        intro taken member
        exact untaken t taken (List.mem_singleton.mp member).symm
      by_cases installs : ∃ t controlHz loop, e = .call t ⟨.loopInstall controlHz, loop⟩
      · obtain ⟨t, controlHz, loop, same⟩ := installs
        subst same
        rcases installer_covered run split started with ⟨u, releasing⟩ | ⟨leased, inTime⟩
        · exact Or.inl ⟨u, unsettled releasing⟩
        · rw [reached] at leased inTime
          exact Or.inr ⟨leased, inTime⟩
      · have found : s.servoLoop ≠ none := by
          rw [next_servoLoop untaken fun t controlHz loop same => installs ⟨t, controlHz, loop, same⟩]
            at installed
          exact installed
        rcases before found with ⟨t, releasing⟩ | ⟨leased, inTime⟩
        · exact Or.inl ⟨t, unsettled releasing⟩
        · by_cases released : ∃ owner, ServerEvent.Releases owner e
          · obtain ⟨owner, releases⟩ := released
            obtain ⟨t, same⟩ := releases.call
            subst same
            exact Or.inl ⟨t, releasing_of_release⟩
          · right
            refine ⟨ServerState.next_leased enabled leased inTime.current
              fun owner releases => released ⟨owner, releases⟩, ?_⟩
            apply ServerState.next_inTime (by rw [still_lasting]; exact ttl) inTime
            intro now same
            subst same
            have bound := clock pre now post split
            rw [reached] at bound
            exact bound found

def loopRequests : Nat → Request ℝ
  | 0 => .acquireLease "A" false
  | 1 => .startServoLoop "A" none
  | _ => .ping

noncomputable def readyPose : RobotState ℝ :=
  { stamp := 0, q := [0, 0, 0, 0, 0, 0, 0], tcpPose := overTable,
    controlMode := .nrtCartesianMotionForce }

noncomputable def readyRobot : Robot ℝ :=
  { freshServer.robot with filter := freshServer.robot.filter.reset (some readyPose) }

noncomputable def installing : Call (effects ℝ) := ⟨.loopInstall none, 0⟩

noncomputable def beforeInstall : List (ServerEvent ℝ) :=
  acquires 0 "A" 0 ++ checksIn 1 "A" 0 ++
    [.call 1 ⟨.lockAcquire, freshServer.robot⟩, .call 1 ⟨.loopSlot, none⟩,
      .call 1 ⟨.readState, .ok readyPose⟩]

noncomputable def installedUntil (now : ℝ) : List (ServerEvent ℝ) :=
  beforeInstall ++ [.call 1 installing, .call 1 ⟨.lockRelease readyRobot, ()⟩, .env (.elapse now)]

theorem installedUntil_run {now : ℝ} (later : 0 ≤ now) :
    ServerRun loopRequests freshServer (installedUntil now) where
  started := ⟨rfl, rfl, rfl, rfl, rfl⟩
  run := by
    constructor
    · norm_num +decide [installedUntil, beforeInstall, installing, acquires, checksIn,
        Machine.Valid, server, ServerState.Enabled, ServerState.Answers, ServerState.next,
        ServerState.afterCall, ServerState.afterMove, freshServer, Lease.owner,
        Lease.expireIfStale, Lease.acquire, Lease.grant, Lease.check, Lease.verify,
        Lease.heartbeat, Except.map, later]
    · rintro (_ | _ | _)
      · exact ⟨_, .cons (.cons (.cons (.nil _)))⟩
      · exact ⟨_, .cons (.cons (.cons (.cons (.cons (.cons (.cons (.cons (.nil _))))))))⟩
      · exact ⟨_, .nil _⟩
  received := by
    intro pre thread c post split
    have orderly : Orderly [] (installedUntil now) := by
      simp [installedUntil, beforeInstall, acquires, checksIn, Orderly]
    exact (orderly.received split).resolve_left List.not_mem_nil
  replied := by
    intro pre thread post split
    have absent : .env (.reply thread) ∉ installedUntil now := by
      simp [installedUntil, beforeInstall, acquires, checksIn]
    exact absurd (split ▸ List.mem_append_right pre List.mem_cons_self) absent

theorem installed_loop_is_leased_in_time :
    (∃ t, Releasing (installedUntil 2) t) ∨
      (server.run freshServer (installedUntil 2)).holder ≠ none := by
  have uninstalled : ∀ e ∈ beforeInstall, ¬ ∃ t hz loop, e = .call t ⟨.loopInstall hz, loop⟩ := by
    simp [beforeInstall, acquires, checksIn]
  have unelapsed : ∀ e ∈ beforeInstall ++ [.call 1 installing, .call 1 ⟨.lockRelease readyRobot, ()⟩],
      ¬ ∃ now, e = .env (.elapse now) := by
    simp [beforeInstall, acquires, checksIn]
  have unreleased : ∀ t owner, .call t ⟨.leaseRelease owner, .ok ()⟩ ∉ beforeInstall := by
    simp [beforeInstall, acquires, checksIn]
  have current : server.Throughout (fun s => ¬ s.Lapsed) freshServer beforeInstall := by
    norm_num +decide [beforeInstall, acquires, checksIn, Machine.Throughout, server,
      ServerState.next, ServerState.afterCall, ServerState.afterMove, freshServer,
      ServerState.Lapsed, Lease.Lapsed, Lease.owner, Lease.expireIfStale, Lease.acquire,
      Lease.grant, Lease.check, Lease.heartbeat]
  have inTime : (server.run freshServer beforeInstall).InTime := by
    norm_num +decide [beforeInstall, acquires, checksIn, Machine.run, server,
      ServerState.next, ServerState.afterCall, ServerState.afterMove, freshServer,
      ServerState.InTime, Lease.owner, Lease.expireIfStale, Lease.acquire,
      Lease.grant, Lease.check, Lease.heartbeat]
  refine installed_loop_is_leased (installedUntil_run (by norm_num)) ?_ ?_ ?_ (installedUntil 2) []
    (List.append_nil _).symm ?_
  · norm_num [freshServer]
  · intro pre t controlHz loop post owner split made_for before since found
    obtain ⟨same, _, _⟩ := only_split (fun e => ∃ t hz loop, e = .call t ⟨.loopInstall hz, loop⟩)
      split ⟨t, controlHz, loop, rfl⟩ uninstalled (by simp)
    subst same
    have parts := found.split
    rw [parts] at current unreleased
    refine ⟨?_, ((Machine.throughout_append _ _ _ _ _).mp current).2, ?_⟩
    · intro u other taken member
      exact absurd (List.mem_append_right before member) (unreleased u other)
    · rw [← parts]
      exact inTime
  · intro pre now post split installed info found
    have whole : (beforeInstall ++
        [.call 1 installing, .call 1 ⟨.lockRelease readyRobot, ()⟩]) ++ .env (.elapse 2) :: [] =
        pre ++ .env (.elapse now) :: post := by
      rw [← split, List.append_assoc]
      rfl
    obtain ⟨same, clock, _⟩ := only_split (fun e => ∃ now, e = .env (.elapse now)) whole
      ⟨now, rfl⟩ unelapsed (fun _ none => (by cases none))
    cases clock
    subst same
    norm_num +decide [beforeInstall, installing, acquires, checksIn, Machine.run, server,
      ServerState.next, ServerState.afterCall, ServerState.afterMove, freshServer,
      Lease.owner, Lease.expireIfStale, Lease.acquire, Lease.grant, Lease.check,
      Lease.heartbeat] at found
    subst found
    exact le_refl 2
  · exact Option.some_ne_none 0

/-- A is gone and its loop is still in the slot when the lease has run out. -/
theorem loop_outlives_lease :
    ServerRun loopRequests freshServer (installedUntil 3) ∧
      (server.run freshServer (installedUntil 3)).servoLoop = some 0 ∧
        (server.run freshServer (installedUntil 3)).holder = none := by
  refine ⟨installedUntil_run (by norm_num), rfl, ?_⟩
  norm_num +decide [installedUntil, beforeInstall, installing, acquires, checksIn, Machine.run,
    server, ServerState.next, ServerState.afterCall, ServerState.afterMove, freshServer,
    ServerState.holder, Lease.holder, Lease.owner, Lease.expireIfStale, Lease.acquire,
    Lease.grant, Lease.check, Lease.heartbeat]

end FlexivControl
