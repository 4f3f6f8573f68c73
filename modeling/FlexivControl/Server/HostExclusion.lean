/-
When at most one live process holds the host lock.

Acquiring is a read, a test and a replacement in three steps, and releasing does not know
of the process's other objects. So the lock excludes as long as nobody else replaces the
file while an acquisition is under way, and no process removes it that still relies on it.
-/

import FlexivControl.Server.HostLock

namespace FlexivControl

open Pool

def Cleared (pid : Int) (info : Option LockFile) (since : List (Call hostOps)) : Prop :=
  ∀ named, info = some named →
    named.holderPid = pid ∨ ⟨.pidAlive named.holderPid, false⟩ ∈ since

/-- A thread replaces the file only after a read that cleared it. -/
def clearance (pid : Int) : Monitor hostOps (List (Call hostOps)) :=
  Monitor.remembering fun seen op => ∀ handle, op = .replace handle →
    ∃ before info since, seen = before ++ ⟨.read, info⟩ :: since ∧ Cleared pid info since

theorem clearance_free {pid : Int} {op : HostOp}
    (harmless : ∀ handle, op ≠ .replace handle) (seen : List (Call hostOps)) :
    (clearance pid).allows seen op :=
  fun handle same => absurd same (harmless handle)

theorem liveOtherHolder_clears (pid : Int) (seen : List (Call hostOps)) :
    (liveOtherHolder pid).wp (clearance pid)
      (fun other seen => other = none → ∃ before info since,
        seen = before ++ ⟨.read, info⟩ :: since ∧ Cleared pid info since) seen := by
  refine ⟨clearance_free (fun _ same => (by cases same)) seen, fun info _ => ?_⟩
  cases info with
  | none =>
      intro _
      exact ⟨seen, none, [], rfl, fun _ impossible => (by cases impossible)⟩
  | some named =>
      change Program.wp _ (if named.holderPid = pid then _ else _) _ _
      by_cases own : named.holderPid = pid
      · rw [if_pos own]
        intro _
        refine ⟨seen, some named, [], rfl, fun _ same => ?_⟩
        cases same
        exact Or.inl own
      · rw [if_neg own]
        refine ⟨clearance_free (fun _ same => (by cases same)) _, fun alive _ => ?_⟩
        cases alive with
        | true =>
            intro impossible
            cases impossible
        | false =>
            intro _
            refine ⟨seen, some named, [⟨.pidAlive named.holderPid, false⟩], ?_, fun _ same => ?_⟩
            · exact List.append_assoc seen _ _
            · cases same
              exact Or.inr List.mem_cons_self

theorem hostCall_clearance (robotId : String) (pid : Nat → Int) {call : HostCall}
    (unforced : ∀ handle owner, call ≠ .acquire handle owner true) :
    (hostCall robotId pid call).wp (clearance (pid call.process)) (fun _ _ => True) [] := by
  cases call with
  | acquire handle owner force =>
      cases force with
      | true => exact absurd rfl (unforced handle owner)
      | false =>
          have noted : (setHandleOwner handle owner).wp (clearance (pid handle.process))
              (fun _ _ => True) [] := by
            cases owner with
            | none => trivial
            | some owner =>
                exact ⟨clearance_free (fun _ same => (by cases same)) _, fun _ _ => trivial⟩
          change Program.wp _ (acquireHost robotId (pid handle.process) handle owner false) _ _
          rw [acquireHost, Program.wp_bind]
          apply Program.wp_mono noted
          intro _ seen _
          rw [Program.wp_bind]
          apply Program.wp_mono (liveOtherHolder_clears _ seen)
          intro other seen cleared
          cases other with
          | some other => trivial
          | none =>
              exact ⟨fun _ _ => cleared rfl, fun _ _ => trivial⟩
  | release handle =>
      change Program.wp _ (releaseHost (pid handle.process) handle) _ _
      refine ⟨clearance_free (fun _ same => (by cases same)) _, fun held _ => ?_⟩
      cases held with
      | false => trivial
      | true =>
          refine ⟨clearance_free (fun _ same => (by cases same)) _, fun info _ => ?_⟩
          cases info with
          | none => exact ⟨clearance_free (fun _ same => (by cases same)) _, fun _ _ => trivial⟩
          | some named =>
              change Program.wp _ (if named.holderPid = _ then _ else _) _ _
              split
              · exact ⟨clearance_free (fun _ same => (by cases same)) _, fun _ _ => trivial⟩
              · exact ⟨clearance_free (fun _ same => (by cases same)) _, fun _ _ => trivial⟩
  | holder handle =>
      change Program.wp _ (liveOtherHolder (pid handle.process) >>= _) _ _
      rw [Program.wp_bind]
      exact Program.wp_mono (liveOtherHolder_clears _ []) fun _ _ _ => trivial

def OwnObject (process : Nat) : HostOp → Prop
  | .setOwner handle _ | .replace handle | .isHeld handle | .remove handle | .forget handle =>
      handle.process = process
  | .read | .pidAlive _ => True

theorem hostCall_uses (robotId : String) (pid : Nat → Int) (call : HostCall) :
    (hostCall robotId pid call).Uses (OwnObject call.process) := by
  have looks (me : Int) : (liveOtherHolder me).Uses (OwnObject call.process) := by
    refine And.intro trivial fun info => ?_
    cases info with
    | none => trivial
    | some named =>
        change Program.Uses _ (if named.holderPid = me then _ else _)
        split
        · trivial
        · exact And.intro trivial fun _ => trivial
  cases call with
  | acquire handle owner force =>
      have noted : (setHandleOwner handle owner).Uses (OwnObject handle.process) := by
        cases owner with
        | none => trivial
        | some owner => exact And.intro rfl fun _ => trivial
      apply noted.bind
      intro _
      apply (looks _).bind
      intro other
      cases other with
      | none => exact And.intro rfl fun _ => trivial
      | some other =>
          cases force with
          | true => exact And.intro rfl fun _ => trivial
          | false => trivial
  | release handle =>
      refine And.intro rfl fun held => ?_
      cases held with
      | false => trivial
      | true =>
          refine And.intro trivial fun info => ?_
          cases info with
          | none => exact And.intro rfl fun _ => trivial
          | some named =>
              change Program.Uses _ (if named.holderPid = _ then _ else _)
              split
              · exact And.intro rfl fun _ => trivial
              · exact And.intro rfl fun _ => trivial
  | holder handle => exact (looks _).bind fun _ => trivial

/-! ### What the steps keep -/

section Steps

variable {pid : Nat → Int} {calls : Nat → HostCall} {s : HostState} {e : HostEvent}

omit s e in
theorem held_of_update {held : Handle → Bool} {handle other : Handle}
    (still : Function.update held other false handle = true) : held handle = true := by
  by_cases same : handle = other
  · subst same
    rw [Function.update_self] at still
    cases still
  · rwa [Function.update_of_ne same] at still

theorem held_of_not_replaced {handle : Handle}
    (unreplaced : ∀ t, e ≠ .call t ⟨.replace handle, ()⟩)
    (held : ((host pid calls).next s e).held handle = true) : s.held handle = true := by
  cases e with
  | env move => cases move <;> exact held
  | call t c =>
      obtain ⟨op, answer⟩ := c
      cases op with
      | replace other =>
          have different : handle ≠ other := by
            intro same
            subst same
            exact unreplaced t rfl
          change Function.update s.held other true handle = true at held
          rwa [Function.update_of_ne different] at held
      | remove other => exact held_of_update held
      | forget other => exact held_of_update held
      | _ => exact held

omit e in
theorem removed_unheld (s : HostState) (t : Nat) (handle : Handle) (answer : Unit) :
    ((host pid calls).next s (.call t ⟨.remove handle, answer⟩)).held handle = false := by
  change Function.update s.held handle false handle = false
  rw [Function.update_self]

theorem held_before {handle : Handle} {events : List HostEvent}
    (unreplaced : ∀ t, .call t ⟨.replace handle, ()⟩ ∉ events)
    (held : ((host pid calls).run s events).held handle = true) : s.held handle = true := by
  induction events generalizing s with
  | nil => exact held
  | cons e rest ih =>
      apply held_of_not_replaced (e := e)
      · intro t same
        exact unreplaced t (same ▸ List.mem_cons_self)
      · exact ih (fun t member => unreplaced t (List.mem_cons_of_mem e member)) held

theorem alive_before {process : Nat} (enabled : (host pid calls).enabled s e)
    (alive : ((host pid calls).next s e).status process ≠ .dead) : s.status process ≠ .dead := by
  cases e with
  | call t c =>
      obtain ⟨op, answer⟩ := c
      cases op <;> exact alive
  | env move =>
      intro dead
      cases move with
      | start other =>
          have different : process ≠ other := by
            intro same
            subst same
            exact absurd (dead.symm.trans enabled.1) nofun
          exact alive ((Function.update_of_ne different _ s.status).trans dead)
      | die other =>
          have different : process ≠ other := by
            intro same
            subst same
            exact absurd (dead.symm.trans enabled) nofun
          exact alive ((Function.update_of_ne different _ s.status).trans dead)

theorem alive_throughout {process : Nat} {events : List HostEvent}
    (valid : (host pid calls).Valid s events)
    (alive : ((host pid calls).run s events).status process ≠ .dead) :
    s.status process ≠ .dead := by
  induction events generalizing s with
  | nil => exact alive
  | cons e rest ih => exact alive_before valid.1 (ih valid.2 alive)

end Steps

/-! ### What holds in every run -/

/-- No two running processes share an id, and only a process that has been started has an
object that holds the lock. -/
structure HostState.Sound (pid : Nat → Int) (s : HostState) : Prop where
  positive : ∀ process, s.status process = .running → 0 < pid process
  distinct : ∀ p q, s.status p = .running → s.status q = .running → pid p = pid q → p = q
  born : ∀ handle, s.held handle = true → s.status handle.process ≠ .unborn

def HostState.Named (pid : Nat → Int) (s : HostState) : Prop :=
  ∀ process, s.Holds process → ∃ info, s.file = some info ∧ info.holderPid = pid process

section Runs

variable {robotId : String} {pid : Nat → Int} {calls : Nat → HostCall} {start : HostState}
  {events pre post : List HostEvent}

theorem HostRun.initial (run : HostRun robotId pid calls start (pre ++ post)) :
    HostRun robotId pid calls start pre where
  idle := run.idle
  run := run.run.initial

theorem HostRun.cleared {t : Nat} {handle : Handle}
    (run : HostRun robotId pid calls start (pre ++ .call t ⟨.replace handle, ()⟩ :: post))
    (unforced : ∀ handle owner, calls t ≠ .acquire handle owner true) :
    ∃ before info since, callsOf t pre = before ++ ⟨.read, info⟩ :: since ∧
      Cleared (pid (calls t).process) info since := by
  have kept : (hostThreads robotId pid calls t).wp (clearance (pid (calls t).process))
      (fun _ _ => True) [] := hostCall_clearance robotId pid unforced
  have may := run.run.allowed kept ((clearance _).admitted_of_forall (fun _ _ => trivial) _ _)
  rw [clearance, Monitor.run_remembering, List.nil_append] at may
  exact may handle rfl

theorem HostRun.own_object {t : Nat} {c : Call hostOps}
    (run : HostRun robotId pid calls start (pre ++ .call t c :: post)) :
    OwnObject (calls t).process c.op := by
  obtain ⟨q, ran⟩ := run.run.traced t
  have used := hostCall_uses robotId pid (calls t)
  exact (used.trace ran).1 c (callsOf_member.mpr (List.mem_append_right _ List.mem_cons_self))

end Runs

theorem HostState.Sound.step {pid : Nat → Int} {calls : Nat → HostCall} {s : HostState}
    {e : HostEvent} (sound : s.Sound pid) (enabled : (host pid calls).enabled s e)
    (own : ∀ t handle, e = .call t ⟨.replace handle, ()⟩ → handle.process = (calls t).process) :
    ((host pid calls).next s e).Sound pid := by
  cases e with
  | call t c =>
      obtain ⟨op, answer⟩ := c
      cases op with
      | replace handle =>
          refine ⟨sound.positive, sound.distinct, fun other held => ?_⟩
          by_cases same : other = handle
          · have running := enabled.1
            rw [← own t handle rfl, ← same] at running
            intro unborn
            cases running.symm.trans unborn
          · apply sound.born
            change Function.update s.held handle true other = true at held
            rwa [Function.update_of_ne same] at held
      | remove handle =>
          exact ⟨sound.positive, sound.distinct, fun other held => sound.born other
            (held_of_update held)⟩
      | forget handle =>
          exact ⟨sound.positive, sound.distinct, fun other held => sound.born other
            (held_of_update held)⟩
      | setOwner handle owner => exact ⟨sound.positive, sound.distinct, sound.born⟩
      | read => exact sound
      | pidAlive id => exact sound
      | isHeld handle => exact sound
  | env move =>
      cases move with
      | start process =>
          obtain ⟨unborn, positive, fresh⟩ := enabled
          have ran {other : Nat}
              (running : Function.update s.status process .running other = .running) :
              other = process ∨ s.status other = .running := by
            by_cases same : other = process
            · exact Or.inl same
            · rw [Function.update_of_ne same] at running
              exact Or.inr running
          refine ⟨?_, ?_, ?_⟩
          · intro p running
            rcases ran running with same | before
            · rw [same]
              exact positive
            · exact sound.positive p before
          · intro p q running_p running_q same_id
            rcases ran running_p with same_p | before_p
            · rcases ran running_q with same_q | before_q
              · rw [same_p, same_q]
              · rw [same_p] at same_id
                exact absurd same_id.symm (fresh q before_q)
            · rcases ran running_q with same_q | before_q
              · rw [same_q] at same_id
                exact absurd same_id (fresh p before_p)
              · exact sound.distinct p q before_p before_q same_id
          · intro handle held
            have different : handle.process ≠ process := by
              intro same
              exact sound.born handle held (same ▸ unborn)
            change Function.update s.status process .running handle.process ≠ .unborn
            rw [Function.update_of_ne different]
            exact sound.born handle held
      | die process =>
          have ran {other : Nat}
              (running : Function.update s.status process .dead other = .running) :
              s.status other = .running := by
            by_cases same : other = process
            · subst same
              rw [Function.update_self] at running
              cases running
            · rwa [Function.update_of_ne same] at running
          refine ⟨fun p running => sound.positive p (ran running),
            fun p q running_p running_q => sound.distinct p q (ran running_p) (ran running_q), ?_⟩
          intro handle held
          change Function.update s.status process .dead handle.process ≠ .unborn
          by_cases same : handle.process = process
          · rw [same, Function.update_self]
            exact nofun
          · rw [Function.update_of_ne same]
            exact sound.born handle held

section Runs

variable {robotId : String} {pid : Nat → Int} {calls : Nat → HostCall} {start : HostState}
  {events pre post : List HostEvent}

theorem HostRun.sound (run : HostRun robotId pid calls start events) :
    ((host pid calls).run start events).Sound pid := by
  induction events using List.reverseRecOn with
  | nil =>
      have never {process : Nat} {status : ProcessStatus} (different : status ≠ .unborn) :
          start.status process ≠ status :=
        fun same => different (same.symm.trans (run.idle.unborn process))
      exact ⟨fun _ running => absurd running (never nofun),
        fun _ _ running => absurd running (never nofun),
        fun handle held => absurd ((run.idle.unheld handle).symm.trans held) nofun⟩
  | append_singleton pre e ih =>
      rw [Machine.run_append]
      apply (ih run.initial).step run.run.valid.enabled_at
      intro t handle same
      subst same
      exact run.own_object

/-- A process that runs and relies on an object at the end did so before, unless the
object replaced the file meanwhile. -/
theorem HostRun.holds_before {process : Nat} {handle : Handle}
    (run : HostRun robotId pid calls start (pre ++ post))
    (running : ((host pid calls).run start (pre ++ post)).status process = .running)
    (own : handle.process = process)
    (held : ((host pid calls).run start (pre ++ post)).held handle = true)
    (unreplaced : ∀ t, .call t ⟨.replace handle, ()⟩ ∉ post) :
    ((host pid calls).run start pre).Holds process := by
  have valid := ((host pid calls).valid_append start pre post).mp run.run.valid
  rw [Machine.run_append] at running held
  have held_then := held_before unreplaced held
  refine ⟨?_, handle, own, held_then⟩
  have undead : ((host pid calls).run start pre).status process ≠ .dead := by
    apply alive_throughout valid.2
    rw [running]
    exact nofun
  have born := run.initial.sound.born handle held_then
  rw [own] at born
  cases status : ((host pid calls).run start pre).status process with
  | running => rfl
  | unborn => exact absurd status born
  | dead => exact absurd status undead

/-- Nobody else replaces the file between an acquisition's read and its replacement, and
whoever removes it still holds the lock through that object and through no other. -/
structure Uncontended (pid : Nat → Int) (calls : Nat → HostCall) (start : HostState)
    (events : List HostEvent) : Prop where
  undivided : ∀ pre t info mid handle post,
    events = pre ++ .call t ⟨.read, info⟩ :: (mid ++ .call t ⟨.replace handle, ()⟩ :: post) →
      ∀ u other, .call u ⟨.replace other, ()⟩ ∈ mid → other.process = handle.process
  relinquished : ∀ pre t handle post, events = pre ++ .call t ⟨.remove handle, ()⟩ :: post →
    ((host pid calls).run start pre).held handle = true ∧
      ∀ other, other.process = handle.process →
        ((host pid calls).run start pre).held other = true → other = handle

theorem Uncontended.initial (uncontended : Uncontended pid calls start (pre ++ post)) :
    Uncontended pid calls start pre where
  undivided := by
    intro before t info mid handle after split
    apply uncontended.undivided before t info mid handle (after ++ post)
    rw [split]
    simp only [List.append_assoc, List.cons_append]
  relinquished := by
    intro before t handle after split
    apply uncontended.relinquished before t handle (after ++ post)
    rw [split, List.append_assoc, List.cons_append]

theorem HostRun.sole_holder {t : Nat} {handle : Handle} {process : Nat}
    (run : HostRun robotId pid calls start (pre ++ [.call t ⟨.replace handle, ()⟩]))
    (unforced : ∀ handle owner, calls t ≠ .acquire handle owner true)
    (uncontended : Uncontended pid calls start (pre ++ [.call t ⟨.replace handle, ()⟩]))
    (named : ∀ a e b, pre = a ++ e :: b → ((host pid calls).run start a).Named pid)
    (holds : ((host pid calls).run start pre).Holds process) : process = handle.process := by
  by_contra different
  obtain ⟨running, other, own, held⟩ := holds
  have own_handle : handle.process = (calls t).process := by
    have own_object := run.own_object
    exact own_object
  have runs_here : ((host pid calls).run start pre).status handle.process = .running := by
    rw [own_handle]
    exact run.run.valid.enabled_at.1
  have not_same : pid handle.process ≠ pid process := by
    intro same
    exact different (run.initial.sound.distinct _ _ runs_here running same).symm
  obtain ⟨before, info, since, calls_eq, cleared⟩ := run.cleared unforced
  obtain ⟨a, b, split, _, since_eq⟩ := callsOf_split calls_eq
  subst split since_eq
  have unreplaced : ∀ u, (.call u ⟨.replace other, ()⟩ : HostEvent) ∉ b := by
    intro u member
    have same := uncontended.undivided a t info b handle [] (by simp) u other member
    exact different (own.symm.trans same)
  have held_at_read : ((host pid calls).run start a).Holds process := by
    apply run.initial.holds_before running own held
    intro u member
    rcases List.mem_cons.mp member with same | later
    · cases same
    · exact unreplaced u later
  obtain ⟨file, found, file_pid⟩ := named a _ b rfl process held_at_read
  have read_eq : info = ((host pid calls).run start a).file :=
    run.initial.run.valid.enabled_at.2
  rcases cleared file (read_eq.trans found) with mine | tested
  · rw [← own_handle] at mine
    exact not_same (mine.symm.trans file_pid)
  · obtain ⟨b₁, b₂, tested_at⟩ := List.append_of_mem (callsOf_member.mp tested)
    subst tested_at
    have at_test : a ++ (.call t ⟨.read, info⟩ : HostEvent) ::
        (b₁ ++ .call t ⟨.pidAlive file.holderPid, false⟩ :: b₂) =
          (a ++ .call t ⟨.read, info⟩ :: b₁) ++
            .call t ⟨.pidAlive file.holderPid, false⟩ :: b₂ := by
      rw [List.append_assoc, List.cons_append]
    have run_to_test := run.initial
    rw [at_test] at run_to_test running held
    have holds_at_test := run_to_test.holds_before running own held
      (fun u member => by
        rcases List.mem_cons.mp member with same | later
        · cases same
        · exact unreplaced u (List.mem_append_right _ (List.mem_cons_of_mem _ later)))
    have answer := run_to_test.run.valid.enabled_at.2
    have alive : false = true := by
      apply answer.mpr
      rw [file_pid]
      exact ⟨run_to_test.initial.sound.positive process holds_at_test.1, process,
        holds_at_test.1, rfl⟩
    cases alive

/-- In every uncontended run the file names the process of whoever holds the lock. -/
theorem HostRun.named (run : HostRun robotId pid calls start events)
    (unforced : ∀ t handle owner, calls t ≠ .acquire handle owner true)
    (uncontended : Uncontended pid calls start events) :
    ((host pid calls).run start events).Named pid := by
  revert uncontended
  apply Run.prefix_induction _ run.run
  intro events ran earlier uncontended process holds
  have run : HostRun robotId pid calls start events := ⟨run.idle, ran⟩
  rcases List.eq_nil_or_concat events with none | ⟨pre, e, split⟩
  · subst none
    exact absurd (run.idle.unborn process |>.symm.trans holds.1) nofun
  · rw [List.concat_eq_append] at split
    subst split
    have named_before (a : List HostEvent) (d : HostEvent) (b : List HostEvent)
        (shorter : pre ++ [e] = a ++ d :: b) : ((host pid calls).run start a).Named pid := by
      apply earlier a d b shorter
      rw [shorter] at uncontended
      exact uncontended.initial
    have named_pre := named_before pre e [] rfl
    have enabled := run.run.valid.enabled_at
    obtain ⟨running, other, own, held⟩ := holds
    have holds_pre (unreplaced : ∀ t, e ≠ .call t ⟨.replace other, ()⟩) :
        ((host pid calls).run start pre).Holds process := by
      apply run.holds_before running own held
      intro t member
      exact unreplaced t (List.mem_singleton.mp member).symm
    rw [Machine.run_append] at running held ⊢
    cases e with
    | env move =>
        obtain ⟨info, found, same⟩ := named_pre process (holds_pre (by intro t; exact nofun))
        cases move with
        | start other => exact ⟨info, found, same⟩
        | die other => exact ⟨info, found, same⟩
    | call t c =>
        obtain ⟨op, answer⟩ := c
        cases op with
        | replace handle =>
            refine ⟨_, rfl, ?_⟩
            change pid handle.process = pid process
            by_cases same : other = handle
            · rw [← own, same]
            · have before := holds_pre (by
                intro u equal
                cases equal
                exact same rfl)
              have shorter (a : List HostEvent) (d : HostEvent) (b : List HostEvent)
                  (split : pre = a ++ d :: b) : ((host pid calls).run start a).Named pid := by
                apply named_before a d (b ++ [.call t ⟨.replace handle, answer⟩])
                rw [split, List.append_assoc, List.cons_append]
              rw [run.sole_holder (unforced t) uncontended shorter before]
        | remove handle =>
            obtain ⟨holding, only⟩ := uncontended.relinquished pre t handle [] rfl
            obtain ⟨info, found, same⟩ := named_pre process (holds_pre (by intro u; exact nofun))
            have own_handle : handle.process = (calls t).process := by
              have own_object := run.own_object
              exact own_object
            have holds_own : ((host pid calls).run start pre).Holds handle.process :=
              ⟨own_handle ▸ enabled.1, handle, rfl, holding⟩
            obtain ⟨info', found', same'⟩ := named_pre handle.process holds_own
            cases found.symm.trans found'
            have same_process : process = handle.process :=
              run.initial.sound.distinct _ _ running holds_own.1 (same.symm.trans same')
            have same_handle := only other (own.trans same_process) (held_of_update held)
            subst same_handle
            exact absurd ((removed_unheld _ t other answer).symm.trans held) nofun
        | _ =>
            obtain ⟨info, found, same⟩ := named_pre process (holds_pre (by intro u; exact nofun))
            exact ⟨info, found, same⟩

/-- Without forced acquisitions, at most one live process holds the lock, in every run in
which nobody else replaces the file between an acquisition's read and its replacement, and
whoever removes the file still holds the lock through that object and through no other. -/
theorem one_process_holds (run : HostRun robotId pid calls start events)
    (unforced : ∀ t handle owner, calls t ≠ .acquire handle owner true)
    (uncontended : Uncontended pid calls start events) :
    ∀ pre post, events = pre ++ post → ∀ p q, ((host pid calls).run start pre).Holds p →
      ((host pid calls).run start pre).Holds q → p = q := by
  intro pre post split p q holds_p holds_q
  subst split
  have named := run.initial.named unforced uncontended.initial
  obtain ⟨info, found, same_p⟩ := named p holds_p
  obtain ⟨info', found', same_q⟩ := named q holds_q
  cases found.symm.trans found'
  exact run.initial.sound.distinct p q holds_p.1 holds_q.1 (same_p.symm.trans same_q)

end Runs

def hundredth (process : Nat) : Int := 100 + process

def noLockFile : HostState where
  file := none
  held _ := false
  owner _ := ""
  status _ := .unborn

def bothAcquire : Nat → HostCall
  | 0 => .acquire ⟨0, 0⟩ none false
  | 1 => .acquire ⟨1, 0⟩ none false
  | _ => .holder ⟨0, 1⟩

def inTurn : List HostEvent :=
  [.env (.start 0), .env (.start 1), .call 0 ⟨.read, none⟩, .call 0 ⟨.replace ⟨0, 0⟩, ()⟩,
    .call 1 ⟨.read, some ⟨some 100, ""⟩⟩, .call 1 ⟨.pidAlive 100, true⟩]

theorem one_process_holds_in_turn :
    ((host hundredth bothAcquire).run noLockFile inTurn).Holds 0 ∧
      ¬ ((host hundredth bothAcquire).run noLockFile inTurn).Holds 1 := by
  have run : HostRun "rizon" hundredth bothAcquire noLockFile inTurn := by
    refine ⟨⟨fun _ => rfl, fun _ => rfl⟩, ?_, ?_⟩
    · simp +decide [inTurn, Machine.Valid, host, HostState.Answers, HostState.afterCall,
        HostState.afterMove, noLockFile, bothAcquire, HostCall.process, hundredth,
        Function.update, HostState.Alive]
      exact ⟨rfl, rfl, rfl⟩
    · rintro (_ | _ | _)
      · exact ⟨_, .cons (.cons (.nil _))⟩
      · exact ⟨_, .cons (.cons (.nil _))⟩
      · exact ⟨_, .nil _⟩
  have unforced : ∀ t handle owner, bothAcquire t ≠ .acquire handle owner true := by
    rintro (_ | _ | _) _ _ same
    · cases same
    · cases same
    · cases same
  have uncontended : Uncontended hundredth bothAcquire noLockFile inTurn := by
    constructor
    · intro pre t info mid handle post split u other member
      rcases pre with _ | ⟨_, _ | ⟨_, _ | ⟨_, _ | ⟨_, _ | ⟨_, _ | ⟨_, rest⟩⟩⟩⟩⟩⟩
      · cases split
      · cases split
      · rcases mid with _ | ⟨_, _ | ⟨_, _ | ⟨_, rest⟩⟩⟩
        · cases member
        · cases split
        · cases split
        · cases rest <;> cases split
      · cases split
      · rcases mid with _ | ⟨_, rest⟩
        · cases split
        · cases rest <;> cases split
      · cases split
      · cases rest <;> cases split
    · intro pre t handle post split
      have member : .call t ⟨.remove handle, ()⟩ ∈ inTurn :=
        split ▸ List.mem_append_right pre List.mem_cons_self
      simp [inTurn] at member
      rcases member with ⟨_, same⟩ | ⟨_, same⟩ | ⟨_, same⟩ | ⟨_, same⟩ <;> cases same
  have holds : ((host hundredth bothAcquire).run noLockFile inTurn).Holds 0 :=
    ⟨rfl, ⟨0, 0⟩, rfl, rfl⟩
  refine ⟨holds, fun both => ?_⟩
  have same := one_process_holds run unforced uncontended inTurn [] (List.append_nil _).symm 0 1
    holds both
  cases same

def atOnce : List HostEvent :=
  [.env (.start 0), .env (.start 1), .call 0 ⟨.read, none⟩, .call 1 ⟨.read, none⟩,
    .call 0 ⟨.replace ⟨0, 0⟩, ()⟩, .call 1 ⟨.replace ⟨1, 0⟩, ()⟩]

theorem two_processes_hold :
    HostRun "rizon" hundredth bothAcquire noLockFile atOnce ∧
      (∀ t handle owner, bothAcquire t ≠ .acquire handle owner true) ∧
        ((host hundredth bothAcquire).run noLockFile atOnce).Holds 0 ∧
          ((host hundredth bothAcquire).run noLockFile atOnce).Holds 1 := by
  refine ⟨⟨⟨fun _ => rfl, fun _ => rfl⟩, ?_, ?_⟩, ?_, ?_, ?_⟩
  · simp +decide [atOnce, Machine.Valid, host, HostState.Answers, HostState.afterCall,
      HostState.afterMove, noLockFile, bothAcquire, HostCall.process, hundredth,
      Function.update]
    exact rfl
  · rintro (_ | _ | _)
    · exact ⟨_, .cons (.cons (.nil _))⟩
    · exact ⟨_, .cons (.cons (.nil _))⟩
    · exact ⟨_, .nil _⟩
  · rintro (_ | _ | _) _ _ same
    · cases same
    · cases same
    · cases same
  · exact ⟨rfl, ⟨0, 0⟩, rfl, rfl⟩
  · exact ⟨rfl, ⟨1, 0⟩, rfl, rfl⟩

end FlexivControl
