/-
The client's heartbeat thread, and when it makes its client the owner again.

The server answers a heartbeat of an owner without the lease with an error, whether the
lease ran out or was taken; the thread then asks for the lease once, without force. That
request is granted whenever nobody holds the lease, whoever held it in between.
-/

import FlexivControl.Server.LeaseRuns
import FlexivControl.Server.FreshSession

namespace FlexivControl

open Pool

/-! ### The thread -/

/-- What a call came to: a result; a `RemoteRobotError`, from the server's reply or because
the connection was closed or out of step; or another exception. -/
inductive RpcOutcome where
  | returned
  | refused
  | broken
  | failed
  deriving DecidableEq, Repr

inductive HeartbeatOp where
  | isRunning
  | sleep
  | heartbeat
  | acquireLease
  | giveUp
  deriving DecidableEq, Repr

abbrev HeartbeatOp.Resp : HeartbeatOp → Type
  | .isRunning => Bool
  | .heartbeat | .acquireLease => RpcOutcome
  | .sleep | .giveUp => Unit

abbrev heartbeatOps : Signature where
  Op := HeartbeatOp
  Resp := HeartbeatOp.Resp

def heartbeatStep (op : HeartbeatOp) : Program heartbeatOps op.Resp := .call op .done

def giveUp : Program heartbeatOps (Option Nat) := do
  heartbeatStep .giveUp
  pure none

/-- One pass of the loop, with the failures counted so far; `none` once it is left. -/
def beat (maxFailures failures : Nat) : Program heartbeatOps (Option Nat) := do
  let running : Bool ← heartbeatStep .isRunning
  if running then do
    heartbeatStep .sleep
    let running : Bool ← heartbeatStep .isRunning
    if running then do
      match (← heartbeatStep .heartbeat : RpcOutcome) with
      | .returned => pure (some 0)
      | .refused | .broken =>
          match (← heartbeatStep .acquireLease : RpcOutcome) with
          | .returned => pure (some 0)
          | _ => giveUp
      | .failed =>
          if maxFailures ≤ failures + 1 then giveUp else pure (some (failures + 1))
    else pure none
  else pure none

def heartbeatLoop (maxFailures : Nat) : Nat → Nat → Program heartbeatOps Unit
  | 0, _ => pure ()
  | passes + 1, failures => do
      match ← beat maxFailures failures with
      | none => pure ()
      | some failures => heartbeatLoop maxFailures passes failures

/-! ### The thread and the server -/

inductive RpcKind where
  | heartbeat
  | acquireLease
  deriving DecidableEq, Repr

/-- One call of the thread: the request it makes, what it came to, and the server's thread
for it. -/
structure Rpc where
  kind : RpcKind
  outcome : RpcOutcome
  thread : Nat

def rpcOf : Call heartbeatOps → Option (RpcKind × RpcOutcome)
  | ⟨.heartbeat, outcome⟩ => some (.heartbeat, outcome)
  | ⟨.acquireLease, outcome⟩ => some (.acquireLease, outcome)
  | _ => none

variable {K : Type} [Scalar K]

def RpcKind.request (owner : String) : RpcKind → Request K
  | .heartbeat => .heartbeat owner
  | .acquireLease => .acquireLease owner false

def grantOf : ServerEvent K → Option String
  | .call _ ⟨.leaseAcquire owner _, .ok _⟩ => some owner
  | _ => none

def grants (events : List (ServerEvent K)) : List String := events.filterMap grantOf

def Replied (requests : Nat → Request K) (start : ServerState K) (events : List (ServerEvent K))
    (thread : Nat) (ok : Bool) : Prop :=
  ∃ pre post out, events = pre ++ .env (.reply thread) :: post ∧
    Trace (handlers requests start.robot thread) (callsOf thread pre) (.done out) ∧
    out.1.isOk = ok

/-- A server run in which the heartbeat thread of a client that was granted the lease makes
these calls, one after the other. -/
structure HeartbeatRun (owner : String) (maxFailures : Nat) (requests : Nat → Request K)
    (start : ServerState K) (events : List (ServerEvent K)) (rpcs : List Rpc) : Prop where
  run : ServerRun requests start events
  traced : ∃ passes calls q, Trace (heartbeatLoop maxFailures passes 0) calls q ∧
    calls.filterMap rpcOf = rpcs.map fun rpc => (rpc.kind, rpc.outcome)
  request : ∀ rpc ∈ rpcs, requests rpc.thread = rpc.kind.request owner
  granted : ∀ rpc ∈ rpcs, ∀ pre post, events = pre ++ .env (.receive rpc.thread) :: post →
    owner ∈ grants pre
  returned : ∀ rpc ∈ rpcs, rpc.outcome = .returned →
    Replied requests start events rpc.thread true
  refused : ∀ rpc ∈ rpcs, rpc.outcome = .refused →
    Replied requests start events rpc.thread false
  ordered : rpcs.Pairwise fun earlier later =>
    earlier.outcome = .returned ∨ earlier.outcome = .refused → ∀ pre post,
      events = pre ++ .env (.receive later.thread) :: post → .env (.reply earlier.thread) ∈ pre

/-- The owner was granted the lease and then somebody else was. -/
def Displaced (owner : String) (events : List (ServerEvent K)) : Prop :=
  owner ∈ grants events ∧ ∃ other, (grants events).getLast? = some other ∧ other ≠ owner

/-- Once displaced, the owner is never recorded as the owner by a step of these threads. -/
def NeverRegains (owner : String) (start : ServerState K) (events : List (ServerEvent K))
    (rpcs : List Rpc) : Prop :=
  ∀ pre rpc c post, events = pre ++ .call rpc.thread c :: post → rpc ∈ rpcs →
    Displaced owner pre → ¬ (server.run start (pre ++ [.call rpc.thread c])).lease.RecordedFor owner

theorem grants_append (xs ys : List (ServerEvent K)) : grants (xs ++ ys) = grants xs ++ grants ys :=
  List.filterMap_append

namespace Lease

section Recorded

variable {lease : Lease K} {now : K} {owner : String}

theorem recorded_of_expireIfStale (recorded : (lease.expireIfStale now).RecordedFor owner) :
    lease.RecordedFor owner := by
  obtain ⟨info, found, owned⟩ := recorded
  exact ⟨info, expireIfStale_info lease now found, owned⟩

theorem recorded_of_owner (recorded : (lease.owner now).2.RecordedFor owner) :
    lease.RecordedFor owner := by
  have same : (lease.owner now).2 = lease.expireIfStale now := by
    unfold Lease.owner
    dsimp only
    cases (lease.expireIfStale now).info <;> rfl
  exact recorded_of_expireIfStale (same ▸ recorded)

theorem recorded_of_heartbeat {other : String}
    (recorded : (lease.heartbeat other now).2.RecordedFor owner) : lease.RecordedFor owner := by
  obtain ⟨info, found, owned⟩ := recorded
  unfold heartbeat at found
  cases held : lease.info with
  | none =>
      rw [held] at found
      cases held.symm.trans found
  | some before =>
      rw [held] at found
      dsimp only at found
      by_cases another : before.owner ≠ other
      · rw [if_pos another] at found
        exact ⟨info, found, owned⟩
      · rw [if_neg another] at found
        cases found
        exact ⟨before, held, owned⟩

omit [Scalar K] in
theorem recorded_of_release {other : String}
    (recorded : (lease.release other).2.RecordedFor owner) : lease.RecordedFor owner := by
  obtain ⟨info, found, owned⟩ := recorded
  unfold release at found
  cases held : lease.info with
  | none =>
      rw [held] at found
      cases held.symm.trans found
  | some before =>
      rw [held] at found
      dsimp only at found
      by_cases another : before.owner ≠ other
      · rw [if_pos another] at found
        exact ⟨info, found, owned⟩
      · rw [if_neg another] at found
        cases found

theorem recorded_of_holdEnter {other : String}
    (recorded : (lease.holdEnter other now).2.RecordedFor owner) : lease.RecordedFor owner := by
  apply @recorded_of_expireIfStale _ _ lease now owner
  unfold holdEnter check at recorded
  dsimp only at recorded
  cases verified : (lease.expireIfStale now).verify other with
  | ok _ =>
      rw [verified] at recorded
      exact recorded
  | error e =>
      rw [verified] at recorded
      exact recorded

theorem recorded_of_holdExit {other : String}
    (recorded : (lease.holdExit other now).RecordedFor owner) : lease.RecordedFor owner := by
  obtain ⟨info, found, owned⟩ := recorded
  unfold holdExit at found
  cases held : lease.info with
  | none =>
      dsimp only at found
      rw [held] at found
      cases found
  | some before =>
      dsimp only at found
      rw [held] at found
      dsimp only at found
      by_cases same : before.owner = other
      · rw [if_pos same] at found
        cases found
        exact ⟨before, held, owned⟩
      · rw [if_neg same] at found
        exact ⟨info, held.trans found, owned⟩

/-- Without force, the lease is granted to a named owner exactly if nobody else holds it. -/
theorem acquire_unforced (named : owner ≠ "") :
    (lease.acquire owner false now).2.RecordedFor owner ↔
      lease.holder now = none ∨ lease.holder now = some owner := by
  unfold Lease.holder
  cases found : (lease.expireIfStale now).info with
  | none =>
      have unheld : ∀ info, (lease.expireIfStale now).info = some info →
          info.owner = owner ∨ false = true := by
        intro info impossible
        cases found.symm.trans impossible
      rw [Lease.acquire_granted named unheld]
      exact ⟨fun _ => Or.inl rfl, fun _ => ⟨_, rfl, rfl⟩⟩
  | some held =>
      by_cases same : held.owner = owner
      · have mine : ∀ info, (lease.expireIfStale now).info = some info →
            info.owner = owner ∨ false = true := by
          intro info again
          cases found.symm.trans again
          exact Or.inl same
        rw [Lease.acquire_granted named mine]
        exact ⟨fun _ => Or.inr (congrArg some same), fun _ => ⟨_, rfl, rfl⟩⟩
      · rw [Lease.acquire_refused named found same]
        constructor
        · intro recorded
          obtain ⟨info, again, owned⟩ := recorded
          cases found.symm.trans again
          exact absurd owned same
        · rintro (none | mine)
          · cases none
          · exact absurd (Option.some.inj mine) same

end Recorded

end Lease

namespace ServerState

theorem afterCall_record {s : ServerState K} {thread : Nat} {c : Call (effects K)} {owner : String}
    (enabled : s.Answers c) (ungranted : grantOf (.call thread c) = none)
    (recorded : (s.afterCall thread c).lease.RecordedFor owner) : s.lease.RecordedFor owner := by
  obtain ⟨op, answer⟩ := c
  cases op with
  | leaseOwner => exact Lease.recorded_of_owner recorded
  | leaseAcquire other force =>
      change (s.lease.acquire other force s.now).2.RecordedFor owner at recorded
      rcases Lease.acquire_cases s.lease other force s.now with ⟨_, _, same | expired⟩ | granted
      · exact same ▸ recorded
      · exact Lease.recorded_of_expireIfStale (expired ▸ recorded)
      · have answered : answer = (s.lease.acquire other force s.now).1.map
            fun info => (info.owner, info.expiresAt) := enabled
        rw [granted] at answered
        rw [answered] at ungranted
        cases ungranted
  | leaseHeartbeat other => exact Lease.recorded_of_heartbeat recorded
  | leaseRelease other => exact Lease.recorded_of_release recorded
  | leaseCheck other => exact Lease.recorded_of_expireIfStale recorded
  | holdEnter other => exact Lease.recorded_of_holdEnter recorded
  | holdExit other => exact Lease.recorded_of_holdExit recorded
  | lockTryAcquire => cases answer <;> exact recorded
  | _ => exact recorded

theorem granted_record {s : ServerState K} (thread : Nat) {other owner : String} {force : Bool}
    {info : String × K} (enabled : s.Answers ⟨.leaseAcquire other force, .ok info⟩) :
    (s.afterCall thread ⟨.leaseAcquire other force, .ok info⟩).lease.RecordedFor owner ↔
      owner = other := by
  have answered : .ok info = (s.lease.acquire other force s.now).1.map
    fun info => (info.owner, info.expiresAt) := enabled
  change (s.lease.acquire other force s.now).2.RecordedFor owner ↔ _
  rcases Lease.acquire_cases s.lease other force s.now with ⟨_, refused, _⟩ | granted
  · rw [refused] at answered
    cases answered
  · rw [granted]
    constructor
    · intro recorded
      obtain ⟨info, found, owned⟩ := recorded
      cases found
      exact owned.symm
    · intro same
      exact ⟨_, rfl, same.symm⟩

end ServerState

section Grants

variable {requests : Nat → Request K} {start : ServerState K} {events pre post : List (ServerEvent K)}
  {owner : String}

theorem grantOf_acquire {thread : Nat} {c : Call (effects K)} {other : String}
    (granted : grantOf (.call thread c) = some other) :
    ∃ force info, c = ⟨.leaseAcquire other force, .ok info⟩ := by
  obtain ⟨op, answer⟩ := c
  cases op with
  | leaseAcquire named force =>
      cases answer with
      | error e => cases granted
      | ok info =>
          cases granted
          exact ⟨force, info, rfl⟩
  | _ => cases granted

theorem grants_snoc (e : ServerEvent K) :
    grants (pre ++ [e]) = grants pre ++ (grantOf e).toList := by
  rw [grants_append]
  cases granted : grantOf e with
  | none => simp only [grants, List.filterMap_cons, granted, List.filterMap_nil, Option.toList_none]
  | some other =>
      simp only [grants, List.filterMap_cons, granted, List.filterMap_nil, Option.toList_some]

theorem ServerRun.recorded_granted (run : ServerRun requests start events)
    (recorded : (server.run start events).lease.RecordedFor owner) :
    (grants events).getLast? = some owner := by
  induction events using List.reverseRecOn with
  | nil =>
      obtain ⟨info, found, _⟩ := recorded
      cases run.started.unleased.symm.trans found
  | append_singleton pre e ih =>
      have enabled : (server.run start pre).Enabled e := run.run.valid.enabled_at
      rw [server.run_append] at recorded
      rw [grants_snoc]
      cases granted : grantOf e with
      | none =>
          rw [Option.toList_none, List.append_nil]
          apply ih run.initial
          cases e with
          | env move => cases move <;> exact recorded
          | call thread c => exact ServerState.afterCall_record enabled granted recorded
      | some other =>
          rw [Option.toList_some, List.getLast?_concat]
          cases e with
          | env move => cases granted
          | call thread c =>
              obtain ⟨force, info, same⟩ := grantOf_acquire granted
              subst same
              exact congrArg some ((ServerState.granted_record thread enabled).mp recorded).symm

theorem ServerRun.granted_named (run : ServerRun requests start events)
    (granted : owner ∈ grants events) : owner ≠ "" := by
  obtain ⟨e, member, grants_eq⟩ := List.mem_filterMap.mp granted
  obtain ⟨pre, post, split⟩ := List.append_of_mem member
  subst split
  cases e with
  | env move => cases grants_eq
  | call thread c =>
      obtain ⟨force, info, same⟩ := grantOf_acquire grants_eq
      subst same
      have answered : .ok info = ((server.run start pre).lease.acquire owner force
        (server.run start pre).now).1.map fun info => (info.owner, info.expiresAt) :=
        run.run.valid.enabled_at
      intro unnamed
      have refused : ((server.run start pre).lease.acquire owner force
          (server.run start pre).now).1 =
          .error (leaseError "lease owner must be a non-empty string") := by
        unfold Lease.acquire
        rw [if_pos unnamed]
      rw [refused] at answered
      cases answered

end Grants

/-! ### When the owner is regained -/

def Op.AsksFor (owner : String) : Op K → Prop
  | .leaseAcquire other force => other = owner ∧ force = false
  | _ => True

theorem settleCancel_asksFor (owner : String) (force : Bool) (prev other : String) :
    Script.Uses (Op.AsksFor owner) (settleCancel force prev other : RobotM K Unit) := by
  unfold settleCancel
  split
  · exact Script.uses_perform trivial
  · split
    · exact Script.uses_perform trivial
    · exact Script.uses_pure ()

theorem request_asksFor (owner : String) (kind : RpcKind) :
    Script.Uses (Op.AsksFor owner) (handle (kind.request owner : Request K)) := by
  cases kind with
  | heartbeat =>
      apply (Script.uses_perform trivial).bind
      intro answer
      cases answer with
      | error e => exact Script.uses_throw e
      | ok expiresAt => exact Script.uses_pure _
  | acquireLease =>
      apply (Script.uses_perform trivial).bind
      intro prev
      apply (Script.uses_perform ⟨rfl, rfl⟩).bind
      intro answer
      cases answer with
      | error e => exact Script.uses_throw e
      | ok info => exact (settleCancel_asksFor owner false prev info.1).bind fun _ =>
          Script.uses_pure _

section Regaining

variable {requests : Nat → Request K} {start : ServerState K} {events : List (ServerEvent K)}
  {owner : String} {maxFailures : Nat} {rpcs : List Rpc}

/-- The thread acquires for its own client only, and without force. -/
theorem HeartbeatRun.asksFor (beats : HeartbeatRun owner maxFailures requests start events rpcs)
    {rpc : Rpc} (made : rpc ∈ rpcs) {pre post : List (ServerEvent K)} {c : Call (effects K)}
    (split : events = pre ++ .call rpc.thread c :: post) : c.op.AsksFor owner := by
  obtain ⟨q, ran⟩ := beats.run.run.traced rpc.thread
  rw [handlers, beats.request rpc made] at ran
  have member : c ∈ callsOf rpc.thread events := by
    rw [callsOf_member, split]
    exact List.mem_append_right pre List.mem_cons_self
  exact ((request_asksFor owner rpc.kind start.robot).trace ran).1 c member

/-- A displaced client's heartbeat thread never makes it the owner again exactly if, each
time the thread asks for the lease after its client was displaced, somebody holds it. -/
theorem heartbeat_never_regains_iff
    (beats : HeartbeatRun owner maxFailures requests start events rpcs) :
    NeverRegains owner start events rpcs ↔
      ∀ pre rpc answer post, events = pre ++ .call rpc.thread ⟨.leaseAcquire owner false, answer⟩ ::
        post → rpc ∈ rpcs → Displaced owner pre → (server.run start pre).holder ≠ none := by
  constructor
  · intro never pre rpc answer post split made displaced unheld
    apply never pre rpc _ post split made displaced
    subst split
    have named : owner ≠ "" := beats.run.initial.granted_named displaced.1
    rw [server.run_append]
    exact (Lease.acquire_unforced named).mpr (Or.inl unheld)
  · intro held pre rpc c post split made displaced regained
    have asks := beats.asksFor made split
    have before : ServerRun requests start pre := by
      have run := beats.run
      rw [split] at run
      exact run.initial
    have stranger : ¬ (server.run start pre).lease.RecordedFor owner := by
      intro recorded
      obtain ⟨other, last, another⟩ := displaced.2
      rw [before.recorded_granted recorded] at last
      exact another (Option.some.inj last).symm
    have enabled : (server.run start pre).Answers c := by
      have valid := beats.run.run.valid
      rw [split] at valid
      exact valid.enabled_at
    rw [server.run_append] at regained
    cases granted : grantOf (.call rpc.thread c) with
    | none => exact stranger (ServerState.afterCall_record enabled granted regained)
    | some other =>
        obtain ⟨force, info, same⟩ := grantOf_acquire granted
        subst same
        obtain ⟨same, unforced⟩ := asks
        subst same unforced
        have named : other ≠ "" := before.granted_named displaced.1
        rcases (Lease.acquire_unforced named).mp regained with unheld | mine
        · exact held pre rpc _ post split made displaced unheld
        · exact stranger (Lease.holder_eq_some.mp mine).1

end Regaining

noncomputable def aroundSteal : Nat → Request ℝ
  | 0 => .acquireLease "A" false
  | 1 => .acquireLease "B" true
  | 2 => .releaseLease "B"
  | 3 => .heartbeat "A"
  | 4 => .acquireLease "A" false
  | _ => .ping

noncomputable def stealsLease : List (ServerEvent ℝ) :=
  [.env (.receive 1), .call 1 ⟨.leaseOwner, "A"⟩, .call 1 ⟨.leaseAcquire "B" true, .ok ("B", 2)⟩,
    .call 1 ⟨.cancelSet, ()⟩]

noncomputable def beatRefused : List (ServerEvent ℝ) :=
  [.env (.receive 3), .call 3 ⟨.leaseHeartbeat "A",
    .error (leaseError ("'" ++ "A" ++ "' does not hold the lease"))⟩]

noncomputable def asksInVain : List (ServerEvent ℝ) :=
  [.env (.receive 4), .call 4 ⟨.leaseOwner, "B"⟩]

noncomputable def refusesA : Except Exc (String × ℝ) :=
  .error (leaseError ("robot is leased by '" ++ "B" ++ "'; acquire with force=True to override"))

noncomputable def untilRefused : List (ServerEvent ℝ) := stealsLease ++ beatRefused

noncomputable def keptOut : List (ServerEvent ℝ) :=
  (acquires 0 "A" 0 ++ untilRefused) ++ .env (.reply 3) ::
    ((asksInVain ++ [.call 4 ⟨.leaseAcquire "A" false, refusesA⟩]) ++ [.env (.reply 4)])

noncomputable def untilReleased : List (ServerEvent ℝ) :=
  stealsLease ++ releases 2 "B" ++ beatRefused

noncomputable def regained : List (ServerEvent ℝ) :=
  (acquires 0 "A" 0 ++ untilReleased) ++ .env (.reply 3) ::
    (acquires 4 "A" 0 ++ [.env (.reply 4)])

def refusedThen (outcome : RpcOutcome) : List Rpc :=
  [⟨.heartbeat, .refused, 3⟩, ⟨.acquireLease, outcome, 4⟩]

theorem split_after {α : Type} {front rest pre post : List α} {x : α}
    (split : front ++ rest = pre ++ x :: post) (later : x ∉ front) : ∃ inside, pre = front ++ inside := by
  rcases List.append_eq_append_iff.mp split with ⟨inside, same, _⟩ | ⟨inside, same, behind⟩
  · exact ⟨inside, same⟩
  · cases inside with
    | nil => exact ⟨[], by rw [same, List.append_nil, List.append_nil]⟩
    | cons y inside =>
        cases behind
        rw [same] at later
        exact absurd (List.mem_append_right pre List.mem_cons_self) later

theorem replied_concat {requests : Nat → Request ℝ} {robot : Robot ℝ} {t : Nat}
    {events : List (ServerEvent ℝ)}
    (replied : ∀ pre thread post, events = pre ++ .env (.reply thread) :: post →
      ∃ out, Trace (handlers requests robot thread) (callsOf thread pre) (.done out))
    (finished : ∃ out, Trace (handlers requests robot t) (callsOf t events) (.done out)) :
    ∀ pre thread post, events ++ [.env (.reply t)] = pre ++ .env (.reply thread) :: post →
      ∃ out, Trace (handlers requests robot thread) (callsOf thread pre) (.done out) := by
  intro pre thread post split
  rcases List.eq_nil_or_concat post with last | ⟨front, e, last⟩
  · subst last
    obtain ⟨same, reply⟩ := List.append_inj' split rfl
    cases reply
    exact same ▸ finished
  · subst last
    rw [List.concat_eq_append, ← List.cons_append, ← List.append_assoc] at split
    exact replied pre thread front (List.append_inj' split rfl).1

theorem refusedThen_run {middle after : List (ServerEvent ℝ)} (ok : Bool)
    (run : ServerRun aroundSteal freshServer ((acquires 0 "A" 0 ++ middle) ++ .env (.reply 3) ::
      (after ++ [.env (.reply 4)])))
    (beat : callsOf 3 (acquires 0 "A" 0 ++ middle) = callsOf 3 beatRefused)
    (unasked : .env (.receive 4) ∉ acquires 0 "A" 0 ++ middle)
    (asked : ∃ out, Trace (handlers aroundSteal freshServer.robot 4)
      (callsOf 4 ((acquires 0 "A" 0 ++ middle) ++ .env (.reply 3) :: after)) (.done out) ∧
        out.1.isOk = ok) :
    HeartbeatRun "A" 3 aroundSteal freshServer ((acquires 0 "A" 0 ++ middle) ++
      .env (.reply 3) :: (after ++ [.env (.reply 4)]))
      (refusedThen (if ok then .returned else .refused)) where
  run := run
  traced := by
    refine ⟨1, [⟨.isRunning, true⟩, ⟨.sleep, ()⟩, ⟨.isRunning, true⟩, ⟨.heartbeat, .refused⟩,
      ⟨.acquireLease, if ok then .returned else .refused⟩], ?_⟩
    exact ⟨_, .cons (.cons (.cons (.cons (.cons (.nil _))))), rfl⟩
  request := by
    intro rpc made
    rcases List.mem_cons.mp made with first | made
    · subst first
      rfl
    · cases List.mem_singleton.mp made
      rfl
  granted := by
    have thread : ∀ rpc ∈ refusedThen (if ok then .returned else .refused), rpc.thread ≠ 0 := by
      cases ok <;> decide
    intro rpc made pre post split
    rw [List.append_assoc] at split
    obtain ⟨inside, same⟩ := split_after split (by
      intro member
      simp [acquires] at member
      exact thread rpc made member)
    rw [same, grants_append]
    exact List.mem_append_left _ List.mem_cons_self
  returned := by
    intro rpc made good
    rcases List.mem_cons.mp made with first | made
    · subst first
      cases good
    · cases List.mem_singleton.mp made
      cases ok with
      | false => cases good
      | true =>
          obtain ⟨out, ran, answered⟩ := asked
          refine ⟨_, [], out, ?_, ran, answered⟩
          simp only [List.append_assoc, List.cons_append]
  refused := by
    intro rpc made bad
    rcases List.mem_cons.mp made with first | made
    · subst first
      refine ⟨_, _, (.error (leaseError ("'" ++ "A" ++ "' does not hold the lease")),
        freshServer.robot), rfl, ?_, rfl⟩
      rw [beat]
      exact .cons (.nil _)
    · cases List.mem_singleton.mp made
      cases ok with
      | true => cases bad
      | false =>
          obtain ⟨out, ran, answered⟩ := asked
          refine ⟨_, [], out, ?_, ran, answered⟩
          simp only [List.append_assoc, List.cons_append]
  ordered := by
    refine List.pairwise_pair.mpr ?_
    intro _ pre post split
    rw [List.append_cons] at split
    obtain ⟨inside, same⟩ := split_after split (by
      intro member
      rcases List.mem_append.mp member with earlier | reply
      · exact unasked earlier
      · cases List.mem_singleton.mp reply)
    rw [same]
    exact List.mem_append_left _ (List.mem_append_right _ List.mem_cons_self)

theorem keptOut_run : ServerRun aroundSteal freshServer keptOut where
  started := ⟨rfl, rfl, rfl, rfl, rfl⟩
  run := by
    constructor
    · norm_num +decide [keptOut, untilRefused, stealsLease, beatRefused, asksInVain, refusesA,
        acquires, Machine.Valid, server, ServerState.Enabled, ServerState.Answers,
        ServerState.next, ServerState.afterCall, ServerState.afterMove, freshServer, Lease.acquire,
        Lease.owner, Lease.heartbeat, Lease.expireIfStale, Lease.grant, Except.map]
    · rintro (_ | _ | _ | _ | _ | _)
      · exact ⟨_, .cons (.cons (.cons (.nil _)))⟩
      · exact ⟨_, .cons (.cons (.cons (.nil _)))⟩
      · exact ⟨_, .nil _⟩
      · exact ⟨_, .cons (.nil _)⟩
      · exact ⟨_, .cons (.cons (.nil _))⟩
      · exact ⟨_, .nil _⟩
  received := by
    intro pre thread c post split
    have orderly : Orderly [] keptOut := by
      norm_num [Orderly, keptOut, untilRefused, stealsLease, beatRefused, asksInVain, acquires]
    exact (orderly.received split).resolve_left List.not_mem_nil
  replied := by
    have heard : ∃ out, Trace (handlers aroundSteal freshServer.robot 3)
        (callsOf 3 (acquires 0 "A" 0 ++ untilRefused)) (.done out) := ⟨_, .cons (.nil _)⟩
    have kept : ∃ out, Trace (handlers aroundSteal freshServer.robot 4)
        (callsOf 4 ((acquires 0 "A" 0 ++ untilRefused) ++ .env (.reply 3) ::
          (asksInVain ++ [.call 4 ⟨.leaseAcquire "A" false, refusesA⟩]))) (.done out) :=
      ⟨_, .cons (.cons (.nil _))⟩
    intro pre thread post split
    rw [keptOut, ← List.cons_append, ← List.append_assoc] at split
    refine replied_concat (replied_once ?_ ?_ heard) kept pre thread post split
    · intro u member
      simp [untilRefused, stealsLease, beatRefused, acquires] at member
    · intro u member
      simp [asksInVain] at member

theorem regained_run : ServerRun aroundSteal freshServer regained where
  started := ⟨rfl, rfl, rfl, rfl, rfl⟩
  run := by
    constructor
    · norm_num +decide [regained, untilReleased, stealsLease, beatRefused, releases, acquires,
        Machine.Valid, server, ServerState.Enabled, ServerState.Answers,
        ServerState.next, ServerState.afterCall, ServerState.afterMove, freshServer, Lease.acquire,
        Lease.owner, Lease.heartbeat, Lease.release, Lease.expireIfStale, Lease.grant, Except.map]
    · rintro (_ | _ | _ | _ | _ | _)
      · exact ⟨_, .cons (.cons (.cons (.nil _)))⟩
      · exact ⟨_, .cons (.cons (.cons (.nil _)))⟩
      · exact ⟨_, .cons (.cons (.cons (.cons (.cons (.cons (.cons (.cons (.nil _))))))))⟩
      · exact ⟨_, .cons (.nil _)⟩
      · exact ⟨_, .cons (.cons (.cons (.nil _)))⟩
      · exact ⟨_, .nil _⟩
  received := by
    intro pre thread c post split
    have orderly : Orderly [] regained := by
      norm_num [Orderly, regained, untilReleased, stealsLease, beatRefused, releases, acquires]
    exact (orderly.received split).resolve_left List.not_mem_nil
  replied := by
    have heard : ∃ out, Trace (handlers aroundSteal freshServer.robot 3)
        (callsOf 3 (acquires 0 "A" 0 ++ untilReleased)) (.done out) := ⟨_, .cons (.nil _)⟩
    have given : ∃ out, Trace (handlers aroundSteal freshServer.robot 4)
        (callsOf 4 ((acquires 0 "A" 0 ++ untilReleased) ++ .env (.reply 3) ::
          acquires 4 "A" 0)) (.done out) := ⟨_, .cons (.cons (.cons (.nil _)))⟩
    intro pre thread post split
    rw [regained, ← List.cons_append, ← List.append_assoc] at split
    refine replied_concat (replied_once ?_ ?_ heard) given pre thread post split
    · intro u member
      simp [untilReleased, stealsLease, beatRefused, releases, acquires] at member
    · intro u member
      simp [acquires] at member

/-- While B holds the lease, A's thread asks for it in vain. -/
theorem heartbeat_never_regains_iff_held :
    NeverRegains "A" freshServer keptOut (refusedThen .refused) := by
  have beats := refusedThen_run false keptOut_run rfl (by
    simp [untilRefused, stealsLease, beatRefused, acquires])
    ⟨_, .cons (.cons (.nil _)), rfl⟩
  refine (heartbeat_never_regains_iff beats).mpr ?_
  intro pre rpc answer post split made _
  have second : ∀ rpc ∈ refusedThen .refused, rpc.thread ≠ 0 := by decide
  have regrouped : ((acquires 0 "A" 0 ++ untilRefused) ++ .env (.reply 3) :: asksInVain) ++
      .call 4 ⟨.leaseAcquire "A" false, refusesA⟩ :: [.env (.reply 4)] =
      pre ++ .call rpc.thread ⟨.leaseAcquire "A" false, answer⟩ :: post := by
    rw [← split]
    simp only [List.append_assoc, List.cons_append, List.nil_append]
  obtain ⟨same, _, _⟩ := only_split
    (fun e => ∃ t answer, t ≠ 0 ∧ e = .call t ⟨.leaseAcquire "A" false, answer⟩) regrouped
    ⟨rpc.thread, answer, second rpc made, rfl⟩
    (by
      rintro e member ⟨t, answer, later, same⟩
      subst same
      simp [untilRefused, stealsLease, beatRefused, asksInVain, acquires] at member
      exact later member.1)
    (by
      rintro e member ⟨t, answer, _, same⟩
      subst same
      cases List.mem_singleton.mp member)
  rw [same]
  norm_num +decide [untilRefused, stealsLease, beatRefused, asksInVain, acquires, Machine.run,
    server, ServerState.next, ServerState.afterCall, ServerState.afterMove, ServerState.holder,
    freshServer, Lease.holder, Lease.acquire, Lease.owner, Lease.heartbeat, Lease.expireIfStale,
    Lease.grant]

/-- B took the lease by force, and the thread of A is granted it once B has released it. -/
theorem heartbeat_regains_displaced :
    ∃ events rpcs, HeartbeatRun "A" 3 aroundSteal freshServer events rpcs ∧
      ¬ NeverRegains "A" freshServer events rpcs := by
  have beats := refusedThen_run true regained_run rfl (by
    simp [untilReleased, stealsLease, beatRefused, releases, acquires])
    ⟨_, .cons (.cons (.cons (.nil _))), rfl⟩
  refine ⟨regained, _, beats, ?_⟩
  intro never
  have displaced : Displaced "A" ((acquires 0 "A" 0 ++ untilReleased) ++ .env (.reply 3) ::
      [.env (.receive 4), .call 4 ⟨.leaseOwner, ""⟩]) := by
    refine ⟨?_, "B", ?_, by decide⟩
    · rw [List.append_assoc, grants_append]
      exact List.mem_append_left _ List.mem_cons_self
    · rfl
  refine never _ ⟨.acquireLease, .returned, 4⟩
    ⟨.leaseAcquire "A" false, .ok ("A", 0 + 2)⟩ [.call 4 ⟨.cancelClear, ()⟩, .env (.reply 4)] ?_ ?_
    displaced ?_
  · simp [regained, acquires]
  · exact List.mem_cons_of_mem _ List.mem_cons_self
  · refine ⟨⟨"A", 0, 0 + 2⟩, ?_, rfl⟩
    norm_num +decide [untilReleased, stealsLease, beatRefused, releases, acquires, Machine.run,
      server, ServerState.next, ServerState.afterCall, ServerState.afterMove,
      freshServer, Lease.acquire, Lease.owner, Lease.heartbeat, Lease.release,
      Lease.expireIfStale, Lease.grant]

end FlexivControl
