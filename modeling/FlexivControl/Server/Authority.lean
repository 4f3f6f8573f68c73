/-
Who owns the lease when a handler acts.

Every handler that acts for an owner first sees that owner hold the lease. Between that
and the effect it may wait for the robot lock, so the lease must be kept meanwhile.
-/

import FlexivControl.Server.Interleaving
import FlexivControl.Robot.Rules

namespace FlexivControl

open Pool Script

variable {K : Type} [Scalar K]

def ServerState.holder (s : ServerState K) : Option String := s.lease.holder s.now

def ServerState.Lapsed (s : ServerState K) : Prop := s.lease.Lapsed s.now

def ServerEvent.Forces : ServerEvent K → Prop
  | .call _ ⟨.leaseAcquire _ force, _⟩ => force = true
  | _ => False

def ServerEvent.Releases (owner : String) : ServerEvent K → Prop
  | .call _ ⟨.leaseRelease other, result⟩ => other = owner ∧ result = .ok ()
  | _ => False

/-- A step that does not force or release the owner's lease keeps its record. -/
theorem ServerState.next_keeps_record {s : ServerState K} {e : ServerEvent K} {owner : String}
    (enabled : s.Enabled e) (recorded : s.lease.RecordedFor owner) (fresh : ¬ s.Lapsed)
    (unforced : ¬ ServerEvent.Forces e) (unreleased : ¬ ServerEvent.Releases owner e) :
    (s.next e).lease.RecordedFor owner := by
  cases e with
  | env move => cases move <;> exact recorded
  | call thread c =>
      obtain ⟨op, answer⟩ := c
      cases op with
      | leaseOwner =>
          change (s.lease.owner s.now).2.RecordedFor owner
          rw [Lease.owner_keeps fresh]
          exact recorded
      | leaseAcquire other force =>
          cases force with
          | true => exact absurd rfl unforced
          | false => exact Lease.acquire_keeps recorded fresh other
      | leaseHeartbeat other => exact Lease.heartbeat_keeps recorded other
      | leaseRelease other =>
          apply Lease.release_keeps recorded
          intro released same
          exact unreleased ⟨same, Eq.trans enabled released⟩
      | leaseCheck other =>
          change (s.lease.check other s.now).2.RecordedFor owner
          rw [Lease.check_keeps fresh]
          exact recorded
      | holdEnter other => exact Lease.holdEnter_keeps recorded fresh other
      | holdExit other => exact Lease.holdExit_keeps recorded other
      | lockTryAcquire => cases answer <;> exact recorded
      | _ => exact recorded

/-- A step that does not force, release or outlast the owner's lease keeps it. -/
theorem ServerState.next_keeps_holder {s : ServerState K} {e : ServerEvent K} {owner : String}
    (enabled : s.Enabled e) (held : s.holder = some owner) (unforced : ¬ ServerEvent.Forces e)
    (unreleased : ¬ ServerEvent.Releases owner e) (current : ¬ (s.next e).Lapsed) :
    (s.next e).holder = some owner := by
  obtain ⟨recorded, fresh⟩ := Lease.holder_eq_some.mp held
  have kept := next_keeps_record enabled recorded fresh unforced unreleased
  exact Lease.holder_eq_some.mpr ⟨kept, current⟩

theorem server_keeps_holder {s : ServerState K} {events : List (ServerEvent K)} {owner : String}
    (valid : server.Valid s events) (held : s.holder = some owner)
    (unforced : ∀ e ∈ events, ¬ ServerEvent.Forces e)
    (unreleased : ∀ e ∈ events, ¬ ServerEvent.Releases owner e)
    (current : server.Throughout (fun s => ¬ s.Lapsed) s events) :
    (server.run s events).holder = some owner := by
  induction events generalizing s with
  | nil => exact held
  | cons e rest ih =>
      rw [List.forall_mem_cons] at unforced unreleased
      have kept : (s.next e).holder = some owner :=
        ServerState.next_keeps_holder valid.1 held unforced.1 unreleased.1 current.2.first
      exact ih valid.2 kept unforced.2 unreleased.2 current.2

def Op.Confirms (owner : String) : Call (effects K) → Prop
  | ⟨.leaseCheck other, result⟩ => other = owner ∧ result = .ok ()
  | ⟨.holdEnter other, result⟩ => other = owner ∧ result = .ok ()
  | _ => False

theorem ServerState.holder_of_confirms {s : ServerState K} {thread : Nat} {c : Call (effects K)}
    {owner : String} (answered : s.Answers c) (confirms : Op.Confirms owner c) :
    (s.next (.call thread c)).holder = some owner := by
  obtain ⟨op, answer⟩ := c
  cases op with
  | leaseCheck other =>
      obtain ⟨same, passed⟩ := confirms
      subst same
      exact Lease.check_ok (answered.symm.trans passed)
  | holdEnter other =>
      obtain ⟨same, passed⟩ := confirms
      subst same
      exact Lease.holdEnter_ok (answered.symm.trans passed)
  | _ => exact absurd confirms id

def BackendCall.IsOperation : BackendCall K → Prop
  | .stop | .setContactWrenchLimit _ => False
  | _ => True

def Op.CanAct : Op K → Prop
  | .setSafetyProfile _ | .loopTake | .loopInstall _ | .loopPublish _ _ => True
  | .write call => call.IsOperation
  | _ => False

noncomputable def confirmation (owner : String) : Monitor (effects K) Prop where
  observe seen c := seen ∨ Op.Confirms owner c
  admits _ _ := True
  allows seen op := Op.CanAct op → seen

theorem confirmation_run {owner : String} {calls : List (Call (effects K))} {seen : Prop}
    (confirmed : (confirmation owner).run seen calls) :
    seen ∨ ∃ c ∈ calls, Op.Confirms owner c := by
  induction calls generalizing seen with
  | nil => exact Or.inl confirmed
  | cons c calls ih =>
      rcases ih confirmed with (before | now) | ⟨d, member, later⟩
      · exact Or.inl before
      · exact Or.inr ⟨c, List.mem_cons_self, now⟩
      · exact Or.inr ⟨d, List.mem_cons_of_mem c member, later⟩

theorem confirmation_free {α : Type} {owner : String} (x : RobotM K α) (robot : Robot K)
    {seen : Prop} (confirmed : seen) :
    wp (confirmation owner) x (fun _ _ _ => True) robot seen := by
  have kept := Program.Uses.wp (m := confirmation owner) (Program.uses_any (x robot))
    (fun (seen : Prop) _ _ (holds : seen) _ => holds)
    (fun (seen : Prop) _ _ _ (holds : seen) => Or.inl holds) confirmed
  exact Program.wp_mono kept fun _ _ _ => trivial

theorem requireLease_confirms {α : Type} (owner : String) (body : RobotM K α) (robot : Robot K) :
    wp (confirmation owner) (requireLease owner >>= fun _ => body) (fun _ _ _ => True) robot
      False := by
  unfold requireLease
  rw [bind_assoc, wp_bind, wp_op]
  refine ⟨id, fun checked _ => ?_⟩
  cases checked with
  | error e => trivial
  | ok a =>
      rw [afterStep_ok]
      exact confirmation_free _ robot (Or.inr ⟨rfl, rfl⟩)

theorem never_acts_confirms {α : Type} {x : RobotM K α} {owner : String}
    (idle : Uses (S := effects K) (fun op => ¬ Op.CanAct op) x) (robot : Robot K) :
    wp (confirmation owner) x (fun _ _ _ => True) robot False :=
  idle.wp (fun _ _ unable _ acts => absurd acts unable) (fun _ _ _ _ _ => trivial) trivial

/-- Apart from releasing, a handler acts for an owner only after it has seen that owner
hold the lease. -/
theorem handle_confirms {request : Request K} {owner : String}
    (made_for : request.owner = some owner) (keeps : request ≠ .releaseLease owner)
    (robot : Robot K) :
    wp (confirmation owner) (handle request) (fun _ _ _ => True) robot False := by
  cases request with
  | ping => cases made_for
  | getLease => cases made_for
  | getSafetyProfile => cases made_for
  | getState => cases made_for
  | stop => cases made_for
  | releaseLease other =>
      cases made_for
      exact absurd rfl keeps
  | acquireLease other force =>
      apply never_acts_confirms
      refine Uses.bind (uses_op id) fun prev => Uses.bind (uses_op id) fun granted => ?_
      refine (uses_attempt granted).bind fun info => ?_
      refine Uses.bind ?_ fun _ => uses_pure _
      unfold settleCancel
      split
      · exact uses_op id
      · split
        · exact uses_op id
        · exact uses_pure _
  | heartbeat other =>
      apply never_acts_confirms
      refine Uses.bind (uses_op id) fun refreshed => ?_
      exact (uses_attempt refreshed).bind fun _ => uses_pure _
  | _ =>
      cases made_for
      exact requireLease_confirms owner _ robot

/-! ### Authority -/

/-- The call is its handler's effect: it swaps the profile, installs or removes the
servo loop, publishes a target, or is the first command of an operation. -/
def IsEffect (pre : List (ServerEvent K)) (thread : Nat) : Call (effects K) → Prop
  | ⟨.setSafetyProfile _, _⟩ => True
  | ⟨.loopInstall _, _⟩ => True
  | ⟨.loopTake, taken⟩ => taken ≠ none
  | ⟨.loopPublish _ _, result⟩ => result = .ok ()
  | ⟨.write call, _⟩ => call.IsOperation ∧
      ∀ earlier result, ⟨.write earlier, result⟩ ∈ callsOf thread pre → ¬ earlier.IsOperation
  | _ => False

theorem IsEffect.canAct {pre : List (ServerEvent K)} {thread : Nat} {c : Call (effects K)}
    (effect : IsEffect pre thread c) : Op.CanAct c.op := by
  obtain ⟨op, answer⟩ := c
  cases op with
  | write call => exact effect.1
  | setSafetyProfile profile => trivial
  | loopTake => trivial
  | loopInstall controlHz => trivial
  | loopPublish loop target => trivial
  | _ => exact effect

/-- `before` ends where the thread last saw the owner hold the lease. -/
structure LastSeen (thread : Nat) (owner : String) (pre before since : List (ServerEvent K)) :
    Prop where
  split : pre = before ++ since
  seen : ∃ earlier c, before = earlier ++ [.call thread c] ∧ Op.Confirms owner c
  last : ∀ c ∈ callsOf thread since, ¬ Op.Confirms owner c

theorem exists_lastSeen {thread : Nat} {owner : String} {pre : List (ServerEvent K)}
    (seen : ∃ c ∈ callsOf thread pre, Op.Confirms owner c) :
    ∃ before since, LastSeen thread owner pre before since := by
  induction pre using List.reverseRecOn with
  | nil =>
      obtain ⟨c, none, _⟩ := seen
      cases none
  | append_singleton pre e ih =>
      by_cases now : ∃ c, e = .call thread c ∧ Op.Confirms owner c
      · obtain ⟨c, same, confirms⟩ := now
        subst same
        exact ⟨pre ++ [.call thread c], [], (List.append_nil _).symm, ⟨pre, c, rfl, confirms⟩,
          fun d none => (by cases none)⟩
      · have elsewhere : ∀ c ∈ callsOf thread [e], ¬ Op.Confirms owner c := by
          intro c member confirms
          rw [callsOf_member, List.mem_singleton] at member
          exact now ⟨c, member.symm, confirms⟩
        obtain ⟨c, member, confirms⟩ := seen
        rw [callsOf_append] at member
        rcases List.mem_append.mp member with earlier | last
        · obtain ⟨before, since, found⟩ := ih ⟨c, earlier, confirms⟩
          refine ⟨before, since ++ [e], ?_, found.seen, ?_⟩
          · rw [found.split, List.append_assoc]
          · intro d inside
            rw [callsOf_append] at inside
            rcases List.mem_append.mp inside with earlier | last
            · exact found.last d earlier
            · exact elsewhere d last
        · exact absurd confirms (elsewhere c last)

/-- Meanwhile nobody releases the owner's lease and it does not run out. -/
def KeptSince (start : ServerState K) (owner : String) (before since : List (ServerEvent K)) :
    Prop :=
  (∀ e ∈ since, ¬ ServerEvent.Releases owner e) ∧
    server.Throughout (fun s => ¬ s.Lapsed) (server.run start before) since

theorem LastSeen.holder {thread : Nat} {owner : String} {pre before since : List (ServerEvent K)}
    {start : ServerState K} (found : LastSeen thread owner pre before since)
    (valid : server.Valid start pre) (unforced : ∀ e ∈ pre, ¬ ServerEvent.Forces e)
    (kept : KeptSince start owner before since) :
    (server.run start pre).holder = some owner := by
  obtain ⟨split, ⟨earlier, c, ended, confirms⟩, _⟩ := found
  subst split
  rw [Machine.valid_append] at valid
  rw [Machine.run_append]
  apply server_keeps_holder valid.2
  · subst ended
    have answered := valid.1.enabled_at
    rw [Machine.run_append]
    exact ServerState.holder_of_confirms answered confirms
  · exact fun e member => unforced e (List.mem_append_right before member)
  · exact kept.1
  · exact kept.2

/-- Without forced acquisitions, whoever's handler acts owns the lease, in every run in
which no releasing handler finds a servo loop and, from the moment a handler last saw its
owner hold the lease until its effect, that lease is neither released nor runs out. -/
theorem handlers_act_as_owner {requests : Nat → Request K} {start : ServerState K}
    {events : List (ServerEvent K)} (run : ServerRun requests start events)
    (unforced : ∀ e ∈ events, ¬ ServerEvent.Forces e)
    (kept : ∀ pre thread c post owner, events = pre ++ .call thread c :: post →
      (requests thread).owner = some owner → IsEffect pre thread c →
        requests thread ≠ .releaseLease owner ∧
          ∀ before since, LastSeen thread owner pre before since →
            KeptSince start owner before since) :
    ∀ pre thread c post owner, events = pre ++ .call thread c :: post →
      (requests thread).owner = some owner → IsEffect pre thread c →
        (server.run start pre).holder = some owner := by
  intro pre thread c post owner split made_for effect
  obtain ⟨keeps, since_kept⟩ := kept pre thread c post owner split made_for effect
  have may_act := run.allowed (fun _ _ => trivial) (handle_confirms made_for keeps start.robot) split
  subst split
  rcases confirmation_run (may_act effect.canAct) with impossible | seen
  · exact absurd impossible id
  · obtain ⟨before, since, found⟩ := exists_lastSeen seen
    exact found.holder run.run.initial.valid
      (fun e member => unforced e (List.mem_append_left _ member))
      (since_kept before since found)

noncomputable def prompt : List (ServerEvent ℝ) :=
  acquires 0 "A" 0 ++ checksIn 1 "A" 0 ++
    [.call 1 ⟨.lockAcquire, Robot.init {} tabletop⟩,
      .call 1 ⟨.loadSafetyProfile "strict", .ok tabletop⟩]

noncomputable def swap : Call (effects ℝ) := ⟨.setSafetyProfile tabletop, ()⟩

def profileRequests : Nat → Request ℝ
  | 0 => .acquireLease "A" false
  | 1 => .setSafetyProfile "A" (.ok "strict")
  | 2 => .acquireLease "B" false
  | _ => .ping

theorem prompt_run : ServerRun profileRequests freshServer (prompt ++ [.call 1 swap]) where
  started := ⟨rfl, rfl, rfl, rfl, rfl⟩
  run := by
    constructor
    · norm_num +decide [prompt, swap, acquires, checksIn, Machine.Valid, server,
        ServerState.Enabled, ServerState.Answers, ServerState.next, ServerState.afterCall,
        ServerState.afterMove, freshServer, Lease.owner, Lease.expireIfStale, Lease.acquire,
        Lease.grant, Lease.check, Lease.verify, Lease.heartbeat, Except.map]
    · rintro (_ | _ | _)
      · exact ⟨_, .cons (.cons (.cons (.nil _)))⟩
      · exact ⟨_, .cons (.cons (.cons (.cons (.cons (.cons (.nil _))))))⟩
      · exact ⟨_, .nil _⟩
  received := by
    intro pre thread c post split
    have orderly : Orderly [] (prompt ++ [.call 1 swap]) := by
      simp [prompt, acquires, checksIn, Orderly]
    exact (orderly.received split).resolve_left List.not_mem_nil
  replied := by
    intro pre thread post split
    have absent : .env (.reply thread) ∉ prompt ++ [.call 1 swap] := by
      simp [prompt, acquires, checksIn]
    exact absurd (split ▸ List.mem_append_right pre List.mem_cons_self) absent

theorem handlers_act_as_owner_prompt : (server.run freshServer prompt).holder = some "A" := by
  have unforced : ∀ e ∈ prompt ++ [.call 1 swap], ¬ ServerEvent.Forces e := by
    simp [prompt, swap, acquires, checksIn, ServerEvent.Forces]
  have unreleased : ∀ e ∈ prompt, ¬ ServerEvent.Releases "A" e := by
    simp [prompt, acquires, checksIn, ServerEvent.Releases]
  have idle : ∀ thread c, .call thread c ∈ prompt → ¬ Op.CanAct c.op := by
    intro thread c member
    simp only [prompt, acquires, checksIn, List.mem_append, List.mem_cons, List.not_mem_nil,
      or_false, reduceCtorEq, false_or, Event.call.injEq] at member
    rcases member with ((⟨_, rfl⟩ | ⟨_, rfl⟩ | ⟨_, rfl⟩) | ⟨_, rfl⟩ | ⟨_, rfl⟩ | ⟨_, rfl⟩) |
      ⟨_, rfl⟩ | ⟨_, rfl⟩ <;> exact id
  have current : server.Throughout (fun s => ¬ s.Lapsed) freshServer prompt := by
    norm_num +decide [prompt, acquires, checksIn, Machine.Throughout, server,
      ServerState.next, ServerState.afterCall, ServerState.afterMove, freshServer,
      ServerState.Lapsed, Lease.Lapsed, Lease.owner, Lease.expireIfStale, Lease.acquire,
      Lease.grant, Lease.check, Lease.heartbeat]
  apply handlers_act_as_owner prompt_run unforced ?_ prompt 1 swap [] "A" rfl rfl trivial
  intro pre thread c post owner split made_for effect
  rcases before_or_last split with member | ⟨whole, same⟩
  · exact absurd effect.canAct (idle thread c member)
  · cases same
    cases made_for
    subst whole
    refine ⟨fun impossible => (by cases impossible), ?_⟩
    intro before since found
    rw [found.split] at unreleased current
    exact ⟨fun e member => unreleased e (List.mem_append_right before member),
      ((Machine.throughout_append _ _ _ _ _).mp current).2⟩

noncomputable def overtaken : List (ServerEvent ℝ) :=
  acquires 0 "A" 0 ++ checksIn 1 "A" 0 ++ [.env (.elapse 3)] ++ acquires 2 "B" 3 ++
    [.call 1 ⟨.lockAcquire, Robot.init {} tabletop⟩,
      .call 1 ⟨.loadSafetyProfile "strict", .ok tabletop⟩]

theorem overtaken_valid : server.Valid freshServer (overtaken ++ [.call 1 swap]) := by
  norm_num +decide [overtaken, swap, acquires, checksIn, Machine.Valid, server,
    ServerState.Enabled, ServerState.Answers, ServerState.next, ServerState.afterCall,
    ServerState.afterMove, freshServer, Lease.owner, Lease.expireIfStale, Lease.acquire,
    Lease.grant, Lease.check, Lease.verify, Lease.heartbeat, Except.map]

theorem overtaken_traced (thread : Nat) :
    ∃ q, Trace (handlers profileRequests freshServer.robot thread)
      (callsOf thread (overtaken ++ [.call 1 swap])) q := by
  rcases thread with _ | _ | _ | _
  · exact ⟨_, .cons (.cons (.cons (.nil _)))⟩
  · exact ⟨_, .cons (.cons (.cons (.cons (.cons (.cons (.nil _))))))⟩
  · exact ⟨_, .cons (.cons (.cons (.nil _)))⟩
  · exact ⟨_, .nil _⟩

theorem overtaken_run :
    ServerRun profileRequests freshServer (overtaken ++ [.call 1 swap]) where
  started := ⟨rfl, rfl, rfl, rfl, rfl⟩
  run := ⟨overtaken_valid, overtaken_traced⟩
  received := by
    intro pre thread c post split
    have orderly : Orderly [] (overtaken ++ [.call 1 swap]) := by
      simp [overtaken, acquires, checksIn, Orderly]
    exact (orderly.received split).resolve_left List.not_mem_nil
  replied := by
    intro pre thread post split
    have absent : .env (.reply thread) ∉ overtaken ++ [.call 1 swap] := by
      simp [overtaken, acquires, checksIn]
    exact absurd (split ▸ List.mem_append_right pre List.mem_cons_self) absent

theorem profile_swapped_without_lease :
    ServerRun profileRequests freshServer (overtaken ++ [.call 1 swap]) ∧
      (∀ e ∈ overtaken ++ [.call 1 swap], ¬ ServerEvent.Forces e) ∧
      (profileRequests 1).owner = some "A" ∧ IsEffect overtaken 1 swap ∧
      (server.run freshServer overtaken).holder = some "B" := by
  refine ⟨overtaken_run, ?_, rfl, trivial, ?_⟩
  · simp [overtaken, swap, acquires, checksIn, ServerEvent.Forces]
  · norm_num +decide [overtaken, acquires, checksIn, Machine.run, server, ServerState.next,
      ServerState.afterCall, ServerState.afterMove, freshServer, ServerState.holder,
      Lease.holder, Lease.owner, Lease.expireIfStale, Lease.acquire, Lease.grant, Lease.check,
      Lease.heartbeat]

end FlexivControl
