/-
Joint targets and the number of joints.

The request stores the list it is given, and the writer thread combines it with the limits
of the profile by broadcasting, ticks later. A list with one entry for each joint moves
every joint towards its own entry and never raises.
-/

import FlexivControl.Filter.JointSizes
import FlexivControl.Loop.Ticks
import FlexivControl.Robot.Untouched
import FlexivControl.Server.Handlers

namespace FlexivControl

open Broadcast Script

variable {K : Type} [Scalar K] {n : Nat}

/-- The filter is sized for `n` joints, and the joint target is one of `sent`. -/
structure ReactiveServoLoop.Holds (loop : ReactiveServoLoop K) (n : Nat) (sent : List K → Prop) :
    Prop where
  filter : loop.filter.SizedFor n
  target : ∀ q, loop.targetQ = some q → sent q

def Publication.Among (n : Nat) (sent : List K → Prop) : Publication K → Prop
  | .jointTarget q _ => sent q
  | .safetyProfile profile => profile.SizedFor n
  | _ => True

def TickInput.published (input : TickInput K) : List (Publication K) :=
  input.beforeFetch ++ (input.beforeAdvance ++ (input.beforeSnapshot ++ input.beforeWrite))

/-- The backend answers, with `n` joints. -/
structure TickInput.Answers (input : TickInput K) (n : Nat) : Prop where
  state : ∃ state, input.state = .ok state ∧ state.q.length = n
  inFault : ∃ faulted, input.inFault = .ok faulted
  accepting : input.Accepting

section Held

variable {sent : List K → Prop} {loop : ReactiveServoLoop K}

theorem Publication.apply_holds {p : Publication K} (among : p.Among n sent)
    (held : loop.Holds n sent) : (p.apply loop).Holds n sent := by
  cases p with
  | cartesianTarget pose gripper now =>
      unfold Publication.apply ReactiveServoLoop.setCartesianTarget
      dsimp only
      split
      · exact ⟨held.filter, held.target⟩
      · exact ⟨held.filter, held.target⟩
  | jointTarget q now =>
      refine ⟨held.filter, ?_⟩
      intro q' same
      cases same
      exact among
  | enqueueChunk chunk s now =>
      unfold Publication.apply ReactiveServoLoop.enqueueChunk
      dsimp only
      split
      · exact held
      · exact ⟨held.filter, held.target⟩
  | safetyProfile profile => exact ⟨⟨among, held.filter.previous⟩, held.target⟩
  | halt => exact ⟨held.filter, held.target⟩

theorem absorb_holds {published : List (Publication K)}
    (among : ∀ p ∈ published, p.Among n sent) (held : loop.Holds n sent) :
    (loop.absorb published).Holds n sent := by
  induction published generalizing loop with
  | nil => exact held
  | cons p rest ih =>
      rw [List.forall_mem_cons] at among
      exact ih among.2 (Publication.apply_holds among.1 held)

theorem prepare_holds {input : TickInput K} (among : ∀ p ∈ input.published, p.Among n sent)
    (held : loop.Holds n sent) (state : RobotState K) :
    (loop.prepare input state).Holds n sent := by
  obtain ⟨fetching, advancing, snapping, _⟩ : (∀ p ∈ input.beforeFetch, p.Among n sent) ∧
      (∀ p ∈ input.beforeAdvance, p.Among n sent) ∧
      (∀ p ∈ input.beforeSnapshot, p.Among n sent) ∧ ∀ p ∈ input.beforeWrite, p.Among n sent := by
    unfold TickInput.published at among
    simpa only [List.forall_mem_append] using among
  have read : ({ loop with latestState := some state } : ReactiveServoLoop K).Holds n sent :=
    ⟨held.filter, held.target⟩
  have fetched := absorb_holds fetching read
  unfold ReactiveServoLoop.prepare
  dsimp only
  generalize ({ loop with latestState := some state } : ReactiveServoLoop K).absorb
    input.beforeFetch = taking at fetched
  have taken : taking.fetchChunk.2.Holds n sent := by
    unfold ReactiveServoLoop.fetchChunk
    split
    · exact fetched
    · exact fetched
    · exact ⟨fetched.filter, fetched.target⟩
  have before := absorb_holds advancing taken
  apply absorb_holds snapping
  cases taking.fetchChunk.1 with
  | noChunk => exact before
  | setpoint sp => exact ⟨before.filter, before.target⟩
  | exhausted => exact ⟨before.filter, before.target⟩

theorem arrive_holds {input : TickInput K} (answers : input.Answers n)
    (among : ∀ p ∈ input.published, p.Among n sent) (held : loop.Holds n sent) :
    ∃ snap found, loop.arrive input = (.ok snap, found) ∧ found.Holds n sent ∧
      snap.state.q.length = n ∧ ∀ q, snap.targetQ = some q → sent q := by
  obtain ⟨state, read, measured⟩ := answers.state
  obtain ⟨faulted, tested⟩ := answers.inFault
  have prepared := prepare_holds among held state
  have last : ∀ p ∈ input.beforeWrite, p.Among n sent := by
    intro p member
    apply among
    unfold TickInput.published
    exact List.mem_append_right _ (List.mem_append_right _ (List.mem_append_right _ member))
  unfold ReactiveServoLoop.arrive
  rw [read]
  dsimp only
  rw [tested]
  refine ⟨_, _, rfl, absorb_holds last ⟨prepared.filter, prepared.target⟩, measured, ?_⟩
  exact prepared.target

def Calm {α : Type} (n : Nat) (sent : List K → Prop) (x : LoopM K α) : Prop :=
  ∀ pass : Pass K, pass.loop.Holds n sent →
    ∃ a pass', x pass = (.ok a, pass') ∧ pass'.loop.Holds n sent

theorem calm_pure {α : Type} (a : α) : Calm n sent (pure a : LoopM K α) :=
  fun pass held => ⟨a, pass, rfl, held⟩

theorem calm_update {f : ReactiveServoLoop K → ReactiveServoLoop K}
    (keeps : ∀ loop : ReactiveServoLoop K, loop.Holds n sent → (f loop).Holds n sent) :
    Calm n sent (update f) :=
  fun pass held => ⟨(), { pass with loop := f pass.loop }, rfl, keeps pass.loop held⟩

theorem calm_command {input : TickInput K} (accepting : input.Accepting) (call : BackendCall K) :
    Calm n sent (command input call) :=
  fun pass held => ⟨(), _, command_accepted accepting call pass, held⟩

theorem Calm.bind {α β : Type} {x : LoopM K α} {f : α → LoopM K β} (first : Calm n sent x)
    (rest : ∀ a, Calm n sent (f a)) : Calm n sent (x >>= f) := by
  intro pass held
  obtain ⟨a, pass', ran, held'⟩ := first pass held
  obtain ⟨b, pass'', ran', held''⟩ := rest a pass' held'
  refine ⟨b, pass'', ?_, held''⟩
  rw [LoopM.bind_apply, ran]
  exact ran'

theorem calm_protectiveStop {input : TickInput K} (accepting : input.Accepting)
    (status : SafetyStatus) (reason : StopReason) :
    Calm n sent (protectiveStop input status reason) :=
  (calm_command accepting _).bind fun _ => calm_update fun _ held => ⟨held.filter, held.target⟩

theorem calm_ensureStreamMode {input : TickInput K} (accepting : input.Accepting)
    (state : RobotState K) (robot : Robot K) (cartesian : Bool) :
    Calm n sent (ensureStreamMode input state robot cartesian) := by
  unfold ensureStreamMode
  split
  · split
    · exact calm_pure ()
    · exact calm_command accepting _
  · split
    · exact calm_command accepting _
    · exact calm_pure ()

theorem calm_reportStreamed (sr : SafetyResult K) : Calm n sent (reportStreamed sr) :=
  calm_update fun _ held => ⟨held.filter, held.target⟩

theorem calm_holdPosition {input : TickInput K} (accepting : input.Accepting)
    {state : RobotState K} (measured : state.q.length = n) (robot : Robot K) (cartesian : Bool) :
    Calm n sent (holdPosition input state robot cartesian) := by
  have anchors : ∀ loop : ReactiveServoLoop K, loop.Holds n sent →
      (loop.withFilter (loop.filter.reset (some state))).Holds n sent := by
    intro loop held
    refine ⟨⟨?_, ?_⟩, held.target⟩
    · change (loop.filter.reset (some state)).p.SizedFor n
      rw [SafetyFilter.reset_p]
      exact held.filter.profile
    · intro q same
      change (loop.filter.reset (some state)).prevQ = some q at same
      rw [SafetyFilter.reset_state_prevQ] at same
      cases same
      exact measured
  unfold holdPosition
  have reports : Calm n sent (update fun loop : ReactiveServoLoop K =>
      { loop with stats := { loop.stats with lastStatus := .holding } }) :=
    calm_update fun _ held => ⟨held.filter, held.target⟩
  refine reports.bind fun _ => ?_
  refine (calm_update anchors).bind fun _ => ?_
  refine (calm_ensureStreamMode accepting state robot cartesian).bind fun _ => ?_
  split
  · exact calm_command accepting _
  · exact calm_command accepting _

theorem calm_sendGripper {input : TickInput K} (accepting : input.Accepting)
    (gripper : Option (GripperCommand K)) : Calm n sent (sendGripper input gripper) := by
  unfold sendGripper
  split
  · exact calm_pure ()
  · refine (calm_command accepting _).bind fun _ => ?_
    exact calm_update fun _ held => ⟨held.filter, held.target⟩

theorem calm_withFilter {filter : SafetyFilter K} (sized : filter.SizedFor n) :
    Calm n sent (update fun loop : ReactiveServoLoop K => loop.withFilter filter) :=
  calm_update fun _ held => ⟨sized, held.target⟩

theorem SafetyFilter.filterCartesian_sized {f : SafetyFilter K} (sized : f.SizedFor n)
    (target : Pose K) (state : RobotState K) (cap : Option (Wrench K)) :
    (f.filterCartesian target state cap).2.SizedFor n := by
  rcases f.filterCartesian_cases target state cap with ⟨reason, rejected⟩ | ⟨draft, _, _, passed⟩
  · rw [rejected]
    exact sized
  · dsimp only at passed
    rw [passed]
    exact ⟨sized.profile, sized.previous⟩

theorem calm_liveCartesian {input : TickInput K} (accepting : input.Accepting)
    (state : RobotState K) {robot : Robot K} (sized : robot.filter.SizedFor n) (target : Pose K)
    (gripper : Option (GripperCommand K)) :
    Calm n sent (liveCartesian input state robot target gripper) := by
  have left := SafetyFilter.filterCartesian_sized sized target state none
  unfold liveCartesian
  dsimp only
  refine (calm_withFilter left).bind fun _ => ?_
  split
  · refine (calm_ensureStreamMode accepting state robot true).bind fun _ => ?_
    refine (calm_command accepting _).bind fun _ => ?_
    exact (calm_sendGripper accepting gripper).bind fun _ => calm_reportStreamed _
  · exact calm_protectiveStop accepting _ _

theorem calm_liveJoint {input : TickInput K} (accepting : input.Accepting) {state : RobotState K}
    (measured : state.q.length = n) {robot : Robot K} (sized : robot.filter.SizedFor n)
    {target : List K} (whole : target.length = n) :
    Calm n sent (liveJoint input state robot target) := by
  obtain ⟨sr, filter', q, passed, left, _, _⟩ := SafetyFilter.filterJoint_sized sized measured whole
  unfold liveJoint
  rw [passed]
  dsimp only
  refine (calm_withFilter left).bind fun _ => ?_
  split
  · refine (calm_ensureStreamMode accepting state robot false).bind fun _ => ?_
    exact (calm_command accepting _).bind fun _ => calm_reportStreamed _
  · exact calm_protectiveStop accepting _ _

theorem calm_writeSection {input : TickInput K} (accepting : input.Accepting) {snap : Snapshot K}
    (measured : snap.state.q.length = n) (whole : ∀ q, snap.targetQ = some q → q.length = n)
    {robot : Robot K} (sized : robot.filter.SizedFor n) :
    Calm n sent (writeSection input snap robot) := by
  unfold writeSection
  dsimp only
  split
  · exact calm_protectiveStop accepting _ _
  · split
    · exact calm_protectiveStop accepting _ _
    · split
      · split
        · exact calm_protectiveStop accepting _ _
        · exact calm_holdPosition accepting measured robot _
      · split
        · exact calm_liveCartesian accepting _ sized _ _
        · rename_i published
          exact calm_liveJoint accepting measured sized (whole _ published)
        · exact calm_pure ()

/-- A pass over such a loop does not raise and leaves such a loop. -/
theorem Tick.calm {t : Tick K} (within : ∀ q, sent q → q.length = n) (answers : t.input.Answers n)
    (among : ∀ p ∈ t.input.published, p.Among n sent) (held : t.before.Holds n sent) :
    t.result.raised = none ∧ t.result.loop.Holds n sent := by
  obtain ⟨snap, found, arrived, held', measured, targets⟩ := arrive_holds answers among held
  obtain ⟨_, pass, ran, left⟩ := calm_writeSection answers.accepting measured
    (fun q published => within q (targets q published)) held'.filter { loop := found } held'
  unfold Tick.result ReactiveServoLoop.tick
  rw [arrived]
  dsimp only
  rw [ran]
  refine ⟨rfl, ?_, ?_⟩
  · change (pass.loop.diagnose t.input).filter.SizedFor n
    rw [diagnose_filter]
    exact left.filter
  · intro q same
    apply left.target
    rw [← same]
    unfold ReactiveServoLoop.diagnose
    dsimp only
    split
    · rfl
    · rfl

end Held

def ReactiveServoLoop.publish (loop : ReactiveServoLoop K) (target : ServoTarget K) (now : K) :
    Except Exc Unit × ReactiveServoLoop K :=
  match target with
  | .cartesian pose gripper => loop.setCartesianTarget pose gripper now
  | .joint q => (.ok (), loop.setJointTarget q now)

def ReactiveServoLoop.requested (now : K) (loop : ReactiveServoLoop K) :
    Call (effects K) → ReactiveServoLoop K
  | ⟨.loopPublish _ target, _⟩ => (loop.publish target now).2
  | _ => loop

def ReactiveServoLoop.Serves (now : K) (loop : ReactiveServoLoop K) : Call (effects K) → Prop
  | ⟨.leaseCheck _, answer⟩ => answer = .ok ()
  | ⟨.leaseHeartbeat _, answer⟩ => ∃ expiresAt, answer = .ok expiresAt
  | ⟨.loopSlot, answer⟩ => ∃ slot, answer = some slot
  | ⟨.loopAlive _, answer⟩ => answer = loop.running
  | ⟨.loopPublish _ target, answer⟩ => answer = (loop.publish target now).1
  | _ => True

def targetRequests (now : K) : Monitor (effects K) (ReactiveServoLoop K) where
  observe := ReactiveServoLoop.requested now
  admits := ReactiveServoLoop.Serves now
  allows _ _ := True

theorem wp_runningLoop {now : K} {loop : ReactiveServoLoop K} (running : loop.running = true)
    (robot : Robot K) :
    wp (targetRequests now) runningLoop
      (fun out _ loop' => (∃ slot, out = .ok slot) ∧ loop' = loop) robot loop := by
  unfold runningLoop withRobotLock
  rw [wp_bind, wp_bind, wp_op]
  refine ⟨trivial, fun robot' _ => ?_⟩
  rw [afterStep_ok, wp_bind, wp_set, afterStep_ok, wp_ensuring, wp_op]
  refine ⟨trivial, ?_⟩
  rintro answer ⟨slot, found⟩
  subst found
  unfold releaseRobotLock
  rw [wp_bind, wp_get, afterStep_ok, wp_op]
  refine ⟨trivial, fun _ _ => ?_⟩
  rw [afterStep_ok, afterStep_ok, wp_bind, wp_op]
  refine ⟨trivial, fun alive answered => ?_⟩
  have lives : alive = true := answered.trans running
  rw [afterStep_ok, if_pos lives]
  exact ⟨⟨slot, rfl⟩, rfl⟩

theorem wp_hServoStreamJoint {now : K} {loop : ReactiveServoLoop K} (running : loop.running = true)
    (owner : String) (q : List K) (robot : Robot K) :
    wp (targetRequests now) (hServoStreamJoint owner (.ok q))
      (fun out _ loop' => out = .ok .ok ∧ loop' = loop.setJointTarget q now) robot loop := by
  unfold hServoStreamJoint requireLease
  rw [wp_bind, wp_bind, wp_op]
  refine ⟨trivial, fun answer checked => ?_⟩
  have leased : answer = .ok () := checked
  rw [afterStep_ok, wp_bind, leased, wp_attempt, afterStep_ok, wp_bind, wp_op]
  refine ⟨trivial, ?_⟩
  rintro answer ⟨expiresAt, beat⟩
  subst beat
  rw [afterStep_ok, wp_bind, wp_attempt, afterStep_ok, wp_op]
  refine ⟨trivial, fun _ _ => ?_⟩
  rw [afterStep_ok, wp_bind]
  apply wp_mono (wp_runningLoop running robot)
  rintro out robot' loop' ⟨⟨slot, found⟩, same⟩
  subst same
  subst found
  rw [afterStep_ok, wp_bind, wp_attempt, afterStep_ok, wp_bind, wp_op]
  refine ⟨trivial, fun answer published => ?_⟩
  have accepted : answer = .ok () := published
  rw [afterStep_ok, wp_bind, accepted, wp_attempt, afterStep_ok]
  exact ⟨rfl, rfl⟩

/-! ### What is promised of a joint target -/

def laterTargets (inputs : List (TickInput K)) (q : List K) : Prop :=
  ∃ input ∈ inputs, ∃ now, .jointTarget q now ∈ input.published

/-- Passes with a backend that answers, other threads publishing for `n` joints. -/
def Regular (n : Nat) (inputs : List (TickInput K)) : Prop :=
  ∀ input ∈ inputs, input.Answers n ∧
    ∀ p ∈ input.published, p.Among n fun q => q.length = n

/-- The list is taken for `n` joints or refused; no later pass raises, and each moves every
joint by the entry that the target in force has for it. -/
structure JointTargetSafe (n : Nat) (before : ReactiveServoLoop K) (q : List K)
    (out : Except Exc (Reply K)) (after : ReactiveServoLoop K) : Prop where
  taken : (q.length = n ∧ out = .ok .ok ∧ after.targetQ = some q ∧ after.cartesian = false) ∨
    ((∃ e, out = .error e) ∧ after.targetQ = before.targetQ ∧ after.cartesian = before.cartesian)
  running : after.running = true
  calm : ∀ inputs, Regular n inputs → ∀ t ∈ after.runInner inputs, t.result.raised = none
  own : ∀ inputs, Regular n inputs → ∀ t ∈ after.runInner inputs, ∀ streamed,
    t.live = some (.joint streamed) → ∃ snap found sent, t.atWrite = some (snap, found) ∧
      snap.targetQ = some sent ∧ (after.targetQ = some sent ∨ laterTargets inputs sent) ∧
      ∀ (i : Nat) (c : K), streamed[i]? = some c → MovesJoint found.filter snap.state sent i c

section Safe

variable {loop : ReactiveServoLoop K}

def InForce (n : Nat) (loop : ReactiveServoLoop K) (inputs : List (TickInput K)) (q : List K) :
    Prop :=
  q.length = n ∧ (loop.targetQ = some q ∨ laterTargets inputs q)

theorem Regular.among {inputs : List (TickInput K)} (regular : Regular n inputs)
    {input : TickInput K} (inside : input ∈ inputs) :
    ∀ p ∈ input.published, p.Among n (InForce n loop inputs) := by
  intro p member
  have whole := (regular input inside).2 p member
  cases p with
  | jointTarget q now => exact ⟨whole, Or.inr ⟨input, inside, now, member⟩⟩
  | safetyProfile profile => exact whole
  | _ => trivial

theorem runInner_calm {inputs : List (TickInput K)} (regular : Regular n inputs)
    (held : loop.Holds n fun q => q.length = n) :
    ∀ t ∈ loop.runInner inputs, t.input ∈ inputs ∧ t.before.Holds n (InForce n loop inputs) ∧
      t.result.raised = none := by
  have within : ∀ q, InForce n loop inputs q → q.length = n := fun _ => And.left
  have start : loop.Holds n (InForce n loop inputs) :=
    ⟨held.filter, fun q published => ⟨held.target q published, Or.inl published⟩⟩
  have step : ∀ t : Tick K, t.input ∈ inputs → t.before.Holds n (InForce n loop inputs) →
      t.result.raised = none ∧ t.result.loop.Holds n (InForce n loop inputs) :=
    fun t inside holds => t.calm within (regular t.input inside).1 (regular.among inside) holds
  intro t member
  obtain ⟨inside, _, holds⟩ := @runInner_invariant K _
    (fun loop' => loop'.Holds n (InForce n loop inputs)) inputs loop start
    (fun t inside _ holds => (step t inside holds).2) t member
  exact ⟨inside, holds, (step t inside holds).1⟩

theorem Tick.own_entries {inputs : List (TickInput K)} (regular : Regular n inputs) {t : Tick K}
    (inside : t.input ∈ inputs) (held : t.before.Holds n (InForce n loop inputs))
    {streamed : List K} (followed : t.live = some (.joint streamed)) :
    ∃ snap found sent, t.atWrite = some (snap, found) ∧ snap.targetQ = some sent ∧
      (loop.targetQ = some sent ∨ laterTargets inputs sent) ∧
      ∀ (i : Nat) (c : K), streamed[i]? = some c → MovesJoint found.filter snap.state sent i c := by
  obtain ⟨snap, found, arrived, held', measured, targets⟩ :=
    arrive_holds (regular t.input inside).1 (regular.among inside) held
  have at_write : t.atWrite = some (snap, found) := by
    unfold Tick.atWrite
    rw [arrived]
  obtain ⟨snap', found', at_write', cartesian | ⟨sent, q, sr, filter', same, _, published, passed,
    _, answer⟩⟩ := Tick.live_spec followed
  · obtain ⟨_, _, _, _, impossible, _⟩ := cartesian
    cases impossible
  · rw [at_write] at at_write'
    cases at_write'
    cases same
    have whole := targets sent published
    obtain ⟨sr', filter'', q', passed', _, answer', moves⟩ :=
      SafetyFilter.filterJoint_sized held'.filter measured whole.1
    rw [passed] at passed'
    cases passed'
    rw [answer] at answer'
    cases answer'
    exact ⟨snap, found, sent, at_write, published, whole.2, moves⟩

end Safe

/-- A joint target is safe for the loop exactly if it has one entry for each joint. -/
theorem joint_target_safe_iff {loop : ReactiveServoLoop K} (running : loop.running = true)
    (held : loop.Holds n fun q => q.length = n) {now : K} {robot robot' : Robot K} {owner : String}
    {q : List K} {calls : List (Call (effects K))} {out : Except Exc (Reply K)}
    (ran : Trace (hServoStreamJoint owner (.ok q) robot) calls (.done (out, robot')))
    (served : (targetRequests now).Admitted loop calls) :
    JointTargetSafe n loop q out ((targetRequests now).run loop calls) ↔ q.length = n := by
  obtain ⟨answered, left⟩ :=
    (Program.wp_sound (wp_hServoStreamJoint running owner q robot) ran served).2
  change out = .ok .ok at answered
  rw [left]
  constructor
  · intro safe
    rcases safe.taken with ⟨whole, _⟩ | ⟨⟨e, refused⟩, _⟩
    · exact whole
    · rw [answered] at refused
      cases refused
  · intro whole
    have held' : (loop.setJointTarget q now).Holds n fun q => q.length = n := by
      refine ⟨held.filter, ?_⟩
      intro q' same
      cases same
      exact whole
    refine ⟨Or.inl ⟨whole, answered, rfl, rfl⟩, running, ?_, ?_⟩
    · intro inputs regular t member
      exact (runInner_calm regular held' t member).2.2
    · intro inputs regular t member streamed followed
      obtain ⟨inside, holds, _⟩ := runInner_calm regular held' t member
      exact Tick.own_entries regular inside holds followed

/-- A pass that follows a list of another length, not of one entry, raises and ends the
thread. -/
theorem Tick.malformed_raises {t : Tick K} {snap : Snapshot K} {found : ReactiveServoLoop K}
    (at_write : t.atWrite = some (snap, found)) (sized : found.filter.SizedFor n)
    (follows : snap.follows found.filter = true) (space : snap.cartesian = false) {q : List K}
    (published : snap.targetQ = some q) (other : q.length ≠ n) (entries : q.length ≠ 1)
    (several : n ≠ 1) : t.result.raised = some broadcastError ∧ t.result.loop.running = false := by
  obtain ⟨healthy, young, fresh⟩ := Snapshot.follows_parts follows
  have passed : found.robot.filter.filterJoint q snap.state = .error broadcastError :=
    SafetyFilter.filterJoint_malformed sized.profile snap.state other entries several
  have raises : writeSection t.input snap found.robot { loop := found } =
      (.error broadcastError, { loop := found }) := by
    unfold writeSection
    rw [healthy, if_neg Bool.false_ne_true, young, if_neg (by exact Bool.false_ne_true), fresh,
      if_neg Bool.false_ne_true, space, published]
    change liveJoint t.input snap.state found.robot q { loop := found } = _
    unfold liveJoint
    rw [passed]
    rfl
  unfold Tick.atWrite at at_write
  unfold Tick.result ReactiveServoLoop.tick
  cases arrived : t.before.arrive t.input with
  | mk out loop =>
      rw [arrived] at at_write
      cases out with
      | error e => cases at_write
      | ok snap' =>
          cases at_write
          dsimp only
          rw [raises]
          exact ⟨rfl, rfl⟩

section Requests

noncomputable def streamingJoints : ReactiveServoLoop ℝ :=
  { ReactiveServoLoop.init tabletopRobot with
    cartesian := false
    targetQ := some (uniform 0)
    running := true }

theorem tabletop_sized : tabletop.SizedFor nJointsDefault where
  lower := rfl
  upper := rfl

theorem streamingJoints_holds : streamingJoints.Holds nJointsDefault
    fun q => q.length = nJointsDefault where
  filter := ⟨tabletop_sized, fun q none => (by cases none)⟩
  target := by
    intro q same
    cases same
    exact List.length_replicate

noncomputable def jointRequest (q : List ℝ) : List (Call (effects ℝ)) :=
  [⟨.leaseCheck "a", .ok ()⟩, ⟨.leaseHeartbeat "a", .ok (0 : ℝ)⟩, ⟨.setFacadeOwner "a", ()⟩,
    ⟨.lockAcquire, tabletopRobot⟩, ⟨.loopSlot, some 0⟩, ⟨.lockRelease tabletopRobot, ()⟩,
    ⟨.loopAlive 0, true⟩, ⟨.loopPublish 0 (.joint q), .ok ()⟩]

theorem jointRequest_runs (q : List ℝ) :
    Trace (hServoStreamJoint "a" (.ok q) tabletopRobot) (jointRequest q)
      (.done (.ok .ok, tabletopRobot)) :=
  .cons (.cons (.cons (.cons (.cons (.cons (.cons (.cons (.nil _))))))))

theorem jointRequest_served (q : List ℝ) :
    (targetRequests 0).Admitted streamingJoints (jointRequest q) :=
  ⟨rfl, ⟨0, rfl⟩, trivial, trivial, ⟨0, rfl⟩, trivial, rfl, rfl, trivial⟩

theorem joint_target_safe_iff_zeroed :
    JointTargetSafe nJointsDefault streamingJoints (uniform 0) (.ok .ok)
      ((targetRequests 0).run streamingJoints (jointRequest (uniform 0))) :=
  (joint_target_safe_iff rfl streamingJoints_holds (jointRequest_runs (uniform 0))
    (jointRequest_served (uniform 0))).mpr List.length_replicate

noncomputable def nextPass : TickInput ℝ where
  state := .ok { stamp := 0 }
  stateClock := 0
  advanceClock := 0
  ageClock := 0

/-- A list of two entries is taken, and the pass that follows it raises. -/
theorem short_joint_target_taken :
    ∃ calls out, (∃ robot', Trace (hServoStreamJoint "a" (.ok [0, 0]) tabletopRobot) calls
        (.done (out, robot'))) ∧ (targetRequests 0).Admitted streamingJoints calls ∧
      ((((targetRequests 0).run streamingJoints calls).tick nextPass).raised = some broadcastError) ∧
      ¬ JointTargetSafe nJointsDefault streamingJoints [0, 0] out
        ((targetRequests 0).run streamingJoints calls) := by
  have raises : ((streamingJoints.setJointTarget [0, 0] 0).tick nextPass).raised =
      some broadcastError := by
    apply (Tick.malformed_raises (t := ⟨streamingJoints.setJointTarget [0, 0] 0, nextPass⟩) rfl
      streamingJoints_holds.filter (follows_of_fresh rfl rfl (sub_self 0)) rfl rfl _ _ _).1
    · intro same
      cases same
    · intro same
      cases same
    · intro same
      cases same
  refine ⟨_, _, ⟨_, jointRequest_runs [0, 0]⟩, jointRequest_served [0, 0], raises, ?_⟩
  intro safe
  rcases safe.taken with ⟨whole, _⟩ | ⟨⟨e, refused⟩, _⟩
  · cases whole
  · cases refused

end Requests

end FlexivControl
