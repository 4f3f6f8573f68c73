/-
A stop request during the exit ritual.

Another thread may set the cancel flag at any point of the call. The lift clears the
flag when it obeys it, so the test in front of the joint move sees only what was
requested since.
-/

import FlexivControl.Library.Pool
import FlexivControl.Robot.Footprint
import FlexivControl.Robot.Rest

namespace FlexivControl

open Pool Script

variable {K : Type} [Scalar K]

/-- The environment's only move sets the flag. -/
def cancelFlag : Machine (effects K) Unit Unit Bool where
  enabled flag
    | .call _ ⟨.cancelIsSet _, answer⟩ => answer = flag
    | _ => True
  next flag
    | .env _ => true
    | .call _ ⟨.cancelSet, _⟩ => true
    | .call _ ⟨.cancelClear, _⟩ => false
    | _ => flag

def Op.isClear : Op K → Bool
  | .cancelClear => true
  | _ => false

def Op.isSet : Op K → Bool
  | .cancelSet => true
  | _ => false

def NeverClears (events : List (Event (effects K) Unit Unit)) : Prop :=
  ∀ c ∈ callsOf () events, c.op.isClear = false

/-- Some request, pending at first or made on the way, is followed by no clear. -/
def Unconsumed (pending : Bool) (events : List (Event (effects K) Unit Unit)) : Prop :=
  (pending = true ∧ NeverClears events) ∨
    ∃ pre post, events = pre ++ .env () :: post ∧ NeverClears post

theorem unconsumed_env (pending : Bool) (rest : List (Event (effects K) Unit Unit)) :
    Unconsumed pending (.env () :: rest) ↔ Unconsumed true rest := by
  constructor
  · rintro (⟨_, kept⟩ | ⟨pre, post, split, kept⟩)
    · exact Or.inl ⟨rfl, kept⟩
    · cases pre with
      | nil =>
          cases split
          exact Or.inl ⟨rfl, kept⟩
      | cons e pre =>
          cases split
          exact Or.inr ⟨pre, post, rfl, kept⟩
  · rintro (⟨_, kept⟩ | ⟨pre, post, split, kept⟩)
    · exact Or.inr ⟨[], rest, rfl, kept⟩
    · exact Or.inr ⟨.env () :: pre, post, by rw [split, List.cons_append], kept⟩

theorem unconsumed_call (pending : Bool) (c : Call (effects K))
    (rest : List (Event (effects K) Unit Unit)) :
    Unconsumed pending (.call () c :: rest) ↔ Unconsumed (pending && !c.op.isClear) rest := by
  have later : (∃ pre post, Event.call () c :: rest = pre ++ .env () :: post ∧
      NeverClears post) ↔ ∃ pre post, rest = pre ++ .env () :: post ∧ NeverClears post := by
    constructor
    · rintro ⟨pre, post, split, kept⟩
      cases pre with
      | nil => cases split
      | cons e pre =>
          cases split
          exact ⟨pre, post, rfl, kept⟩
    · rintro ⟨pre, post, split, kept⟩
      exact ⟨.call () c :: pre, post, by rw [split, List.cons_append], kept⟩
  have now : NeverClears (.call () c :: rest) ↔ c.op.isClear = false ∧ NeverClears rest := by
    unfold NeverClears
    rw [callsOf_own, List.forall_mem_cons]
  unfold Unconsumed
  rw [later, now, Bool.and_eq_true, Bool.not_eq_true', and_assoc]

/-- As long as the robot itself sets nothing, the flag says whether a request is unconsumed. -/
theorem cancelFlag_iff {events : List (Event (effects K) Unit Unit)} (pending : Bool)
    (robotSets : ∀ c ∈ callsOf () events, c.op.isSet = false) :
    cancelFlag.run pending events = true ↔ Unconsumed pending events := by
  induction events generalizing pending with
  | nil =>
      constructor
      · exact fun set => Or.inl ⟨set, fun c member => (by cases member)⟩
      · rintro (⟨set, _⟩ | ⟨pre, post, split, _⟩)
        · exact set
        · exact absurd split.symm (List.append_ne_nil_of_right_ne_nil pre (List.cons_ne_nil _ post))
  | cons e rest ih =>
      cases e with
      | env move =>
          rw [unconsumed_env]
          exact ih true robotSets
      | call t c =>
          rw [callsOf_own, List.forall_mem_cons] at robotSets
          obtain ⟨op, answer⟩ := c
          have next : cancelFlag.next pending (.call t ⟨op, answer⟩) =
              (pending && !op.isClear) := by
            cases op with
            | cancelClear => exact (Bool.and_false pending).symm
            | cancelSet => cases robotSets.1
            | _ => exact (Bool.and_true pending).symm
          rw [unconsumed_call, Machine.run_cons, next, ih _ robotSets.2]

/-! ### What the ritual does around its guard -/

def ControlMode.isJoint : ControlMode → Bool
  | .nrtJointPosition | .nrtJointImpedance | .rtJointPosition | .rtJointImpedance
  | .rtJointTorque => true
  | _ => false

def Op.IsJoint : Op K → Prop
  | .write (.setMode mode _) => mode.isJoint = true
  | .write (.streamJoint _) => True
  | _ => False

def Op.isGuard : Op K → Bool
  | .cancelIsSet site => site = .guard ∨ site = .guardReason
  | _ => false

theorem ControlMode.not_joint_of_isCartesian {mode : ControlMode}
    (cartesian : mode.isCartesian = true) : mode.isJoint = false := by
  cases mode with
  | nrtCartesianMotionForce => rfl
  | rtCartesianMotionForce => rfl
  | _ => cases cartesian

theorem Op.IsCartesian.not_joint {op : Op K} (cartesian : op.IsCartesian) : ¬ op.IsJoint := by
  intro joint
  cases op with
  | write call =>
      cases call with
      | setMode mode params =>
          exact Bool.noConfusion (joint.symm.trans (ControlMode.not_joint_of_isCartesian cartesian))
      | streamJoint q => exact cartesian
      | _ => exact joint
  | _ => exact joint

theorem Op.IsCartesian.not_guard {op : Op K} (cartesian : op.IsCartesian) :
    op.isGuard = false := by
  cases op with
  | cancelIsSet site => exact decide_eq_false fun guard => guard.elim cartesian.1 cartesian.2
  | _ => rfl

theorem ExecutionResult.update_outcome (result : ExecutionResult K) (log : Log K) :
    (result.update log).success = result.success ∧
      (result.update log).stopReason = result.stopReason := by
  induction log generalizing result with
  | nil => exact ⟨rfl, rfl⟩
  | cons entry rest ih => exact ih (result.note entry.1 entry.2)

def ReadsSucceed (calls : List (Call (effects K))) : Prop :=
  ∀ answer, (⟨.readState, answer⟩ : Call (effects K)) ∈ calls → ∃ state, answer = .ok state

def UserStop (out : Except Exc (ExecutionResult K)) : Prop :=
  ∃ result, out = .ok result ∧ result.success = false ∧ result.stopReason = .user

theorem neverRaises_checkLease : NeverRaises (checkLease : RobotM K Unit) := by
  intro robot owner
  cases owner with
  | none => exact fun _ => ⟨(), rfl⟩
  | some owner => exact ⟨(), rfl⟩

theorem neverRaises_liftStage (liftM maxTcpSpeed : K) :
    NeverRaises (liftStage liftM maxTcpSpeed) :=
  NeverRaises.tryCatch _ fun _ => neverRaises_pure _

theorem neverRaises_get_bind {α : Type} {f : Robot K → RobotM K α}
    (rest : ∀ robot, NeverRaises (f robot)) : NeverRaises (get >>= f) :=
  fun robot => rest robot robot

theorem neverRaises_gripperStage (openGripperWidth : Option K) (log : Log K) :
    NeverRaises (gripperStage openGripperWidth log) := by
  refine neverRaises_get_bind fun robot => ?_
  split
  · exact neverRaises_pure log
  · exact NeverRaises.tryCatch _ fun _ => neverRaises_pure _

theorem readsSucceed_getState {robot robot' : Robot K} {out : Except Exc (RobotState K)}
    {calls : List (Call (effects K))} (ran : Trace (getState robot) calls (.done (out, robot'))) :
    ReadsSucceed calls ↔ ∃ state, out = .ok state := by
  obtain ⟨answer, rest, split, published⟩ := ran.of_call
  rw [split]
  cases answer with
  | error e =>
      obtain ⟨nothing, same⟩ := published.of_done
      cases same
      constructor
      · intro succeed
        exact succeed (.error e) List.mem_cons_self
      · rintro ⟨state, impossible⟩
        cases impossible
  | ok state =>
      obtain ⟨_, rest', split', finished⟩ := published.of_call
      obtain ⟨nothing, same⟩ := finished.of_done
      cases same
      rw [split', nothing]
      constructor
      · exact fun _ => ⟨state, rfl⟩
      · intro _ answer member
        rcases List.mem_cons.mp member with same | later
        · cases same
          exact ⟨state, rfl⟩
        · cases List.mem_singleton.mp later

theorem userStop_update {result : ExecutionResult K} {log : Log K} :
    UserStop (.ok (result.update log)) ↔ result.success = false ∧ result.stopReason = .user := by
  obtain ⟨success, reason⟩ := result.update_outcome log
  constructor
  · rintro ⟨_, same, failed, user⟩
    cases same
    exact ⟨success ▸ failed, reason ▸ user⟩
  · rintro ⟨failed, user⟩
    exact ⟨_, rfl, success.trans failed, reason.trans user⟩

theorem skipHome_trace (log : Log K) {robot robot' : Robot K}
    {out : Except Exc (ExecutionResult K)} {calls : List (Call (effects K))}
    (ran : Trace (skipHome log robot) calls (.done (out, robot'))) :
    ∃ stopped ys, calls = ⟨.cancelIsSet .guardReason, stopped⟩ :: ys ∧
      (∀ c ∈ ys, c.op.IsQuiet) ∧ (UserStop out ↔ stopped = true ∧ ReadsSucceed ys) := by
  obtain ⟨stopped, ys, split, reported⟩ := ran.of_call
  obtain ⟨read, robot₁, xs, zs, split', first, rest⟩ :=
    Script.trace_bind (x := getState) reported
  have quiet := ((uses_getState robot).trace first).1
  have succeed := readsSucceed_getState first
  cases read with
  | error e =>
      obtain ⟨nothing, same⟩ := rest
      cases same
      rw [nothing, List.append_nil] at split'
      subst split'
      refine ⟨stopped, ys, split, quiet, ?_⟩
      constructor
      · rintro ⟨_, impossible, _⟩
        cases impossible
      · rintro ⟨_, reads⟩
        obtain ⟨state, impossible⟩ := succeed.mp reads
        cases impossible
  | ok state =>
      obtain ⟨nothing, same⟩ := rest.of_done
      cases same
      rw [nothing, List.append_nil] at split'
      subst split'
      refine ⟨stopped, ys, split, quiet, ?_⟩
      rw [userStop_update, and_iff_left (succeed.mpr ⟨state, rfl⟩)]
      cases stopped with
      | true => exact ⟨fun _ => rfl, fun _ => ⟨rfl, rfl⟩⟩
      | false => exact ⟨fun user => (by cases user.2), fun impossible => (by cases impossible)⟩

theorem homeStage_starts_joint {qHome : Option (List K)} {maxJointSpeed : K} (log : Log K)
    {robot robot' : Robot K} {result : ExecutionResult K} {calls : List (Call (effects K))}
    (ran : Trace (homeStage qHome maxJointSpeed log robot) calls (.done (.ok result, robot'))) :
    ∃ c ∈ calls, c.op.IsJoint := by
  obtain ⟨_, robot₁, xs₁, ys₁, split₁, _, ran₁⟩ := Script.trace_bind_ok (x := get) ran
  obtain ⟨_, robot₂, xs₂, ys₂, split₂, moved, _⟩ := Script.trace_bind_ok ran₁
  obtain ⟨_, robot₃, xs₃, ys₃, split₃, _, ran₃⟩ := Script.trace_bind_ok (x := checkLease) moved
  obtain ⟨_, robot₄, xs₄, ys₄, split₄, _, ran₄⟩ := Script.trace_bind_ok ran₃
  obtain ⟨_, robot₅, xs₅, ys₅, split₅, _, ran₅⟩ := Script.trace_bind_ok ran₄
  obtain ⟨_, robot₆, xs₆, ys₆, split₆, started, _⟩ := Script.trace_bind_ok ran₅
  obtain ⟨answer, rest, split₇, _⟩ := started.of_call
  refine ⟨⟨.write (jointImpedanceCall none false), answer⟩, ?_, rfl⟩
  simp only [split₁, split₂, split₃, split₄, split₅, split₆, split₇, List.mem_append,
    List.mem_cons, true_or, or_true]

/-- The calls of a finished ritual: what precedes the guard neither touches the joints
nor tests the flag there, and what follows it is the skip or the joint move. -/
inductive GuardSplit (out : Except Exc (ExecutionResult K)) :
    List (Call (effects K)) → Prop where
  | contact {xs ys : List (Call (effects K))} {stopped : Bool}
      (before : ∀ c ∈ xs, c.op.IsCartesian) (after : ∀ c ∈ ys, c.op.IsQuiet)
      (reported : UserStop out ↔ stopped = true ∧ ReadsSucceed ys) :
      GuardSplit out (xs ++ ⟨.cancelIsSet .guardReason, stopped⟩ :: ys)
  | pending {xs ys : List (Call (effects K))} {stopped : Bool}
      (before : ∀ c ∈ xs, c.op.IsCartesian) (after : ∀ c ∈ ys, c.op.IsQuiet)
      (reported : UserStop out ↔ stopped = true ∧ ReadsSucceed ys) :
      GuardSplit out (xs ++ ⟨.cancelIsSet .guard, true⟩ ::
        ⟨.cancelIsSet .guardReason, stopped⟩ :: ys)
  | swept {xs ys : List (Call (effects K))}
      (before : ∀ c ∈ xs, c.op.IsCartesian)
      (moved : ∀ result, out = .ok result → ∃ c ∈ ys, c.op.IsJoint) :
      GuardSplit out (xs ++ ⟨.cancelIsSet .guard, false⟩ :: ys)

theorem goHomeSafe_split {qHome : Option (List K)} {liftM : K} {openGripperWidth : Option K}
    {maxTcpSpeed maxJointSpeed : K} {robot robot' : Robot K}
    {out : Except Exc (ExecutionResult K)} {calls : List (Call (effects K))}
    (ran : Trace (goHomeSafe qHome liftM openGripperWidth maxTcpSpeed maxJointSpeed robot) calls
      (.done (out, robot'))) : GuardSplit out calls := by
  obtain ⟨_, robot₁, xs₁, ys₁, split₁, checked, ran₁⟩ := neverRaises_checkLease.trace_bind ran
  obtain ⟨⟨log, contact⟩, robot₂, xs₂, ys₂, split₂, lifted, ran₂⟩ :=
    (neverRaises_liftStage liftM maxTcpSpeed).trace_bind ran₁
  obtain ⟨log', robot₃, xs₃, ys₃, split₃, opened, ran₃⟩ :=
    (neverRaises_gripperStage openGripperWidth log).trace_bind ran₂
  have before : ∀ c ∈ xs₁ ++ (xs₂ ++ xs₃), c.op.IsCartesian := by
    intro c member
    simp only [List.mem_append] at member
    rcases member with inside | inside | inside
    · exact (((uses_checkLease robot).trace checked).1 c inside).cartesian
    · exact ((uses_liftStage liftM maxTcpSpeed robot₁).trace lifted).1 c inside
    · exact ((uses_gripperStage openGripperWidth log robot₂).trace opened).1 c inside
  have joined : calls = (xs₁ ++ (xs₂ ++ xs₃)) ++ ys₃ := by
    rw [split₁, split₂, split₃, List.append_assoc, List.append_assoc]
  rw [joined]
  cases contact with
  | true =>
      obtain ⟨stopped, ys, split₄, after, reported⟩ := skipHome_trace log' ran₃
      rw [split₄]
      exact .contact before after reported
  | false =>
      obtain ⟨set, ys, split₄, decided⟩ := ran₃.of_call
      rw [split₄]
      cases set with
      | true =>
          obtain ⟨stopped, zs, split₅, after, reported⟩ := skipHome_trace log' decided
          rw [split₅]
          exact .pending before after reported
      | false =>
          refine .swept before ?_
          intro result same
          subst same
          exact homeStage_starts_joint log' decided

/-! ### Runs of the ritual beside threads that request a stop -/

section Runs

variable {events : List (Event (effects K) Unit Unit)}

def notGuard : Event (effects K) Unit Unit → Bool
  | .call _ c => !c.op.isGuard
  | .env _ => true

/-- What happens before the joint stage is decided on. -/
def beforeGuard (events : List (Event (effects K) Unit Unit)) :
    List (Event (effects K) Unit Unit) := events.takeWhile notGuard

def StopRequested (pending : Bool) (events : List (Event (effects K) Unit Unit)) : Prop :=
  pending = true ∨ .env () ∈ beforeGuard events

/-- The state read that follows the decision succeeds. -/
def ReadsAfterGuard (events : List (Event (effects K) Unit Unit)) : Prop :=
  ReadsSucceed (callsOf () (events.dropWhile notGuard))

/-- No joint mode, no joint setpoint, and a report that names the user. -/
def HonoursStop (out : Except Exc (ExecutionResult K)) (calls : List (Call (effects K))) : Prop :=
  (∀ c ∈ calls, ¬ c.op.IsJoint) ∧ UserStop out

theorem beforeGuard_eq {pre post : List (Event (effects K) Unit Unit)} {c : Call (effects K)}
    (split : events = pre ++ .call () c :: post)
    (before : ∀ d ∈ callsOf () pre, d.op.IsCartesian) (guard : c.op.isGuard = true) :
    beforeGuard events = pre ∧ events.dropWhile notGuard = .call () c :: post := by
  have ahead : ∀ e ∈ pre, notGuard e = true := by
    intro e member
    cases e with
    | env move => rfl
    | call t d =>
        change (!d.op.isGuard) = true
        rw [(before d (callsOf_member.mpr member)).not_guard]
        rfl
  have atGuard : ¬ notGuard (.call () c : Event (effects K) Unit Unit) = true := by
    change ¬ (!c.op.isGuard) = true
    rw [guard]
    exact Bool.false_ne_true
  constructor
  · rw [beforeGuard, split, List.takeWhile_append_of_pos ahead, List.takeWhile_cons_of_neg atGuard,
      List.append_nil]
  · rw [split, List.dropWhile_append_of_pos ahead, List.dropWhile_cons_of_neg atGuard]

theorem Op.IsCartesian.not_set {op : Op K} (cartesian : op.IsCartesian) : op.isSet = false := by
  cases op with
  | cancelSet => exact absurd cartesian id
  | _ => rfl

theorem reads_set_again {pre post : List (Event (effects K) Unit Unit)} {pending again : Bool}
    {site site' : CancelSite} {ys : List (Call (effects K))}
    (valid : cancelFlag.Valid pending (pre ++ .call () ⟨.cancelIsSet site, true⟩ :: post))
    (calls : callsOf () post = ⟨.cancelIsSet site', again⟩ :: ys) : again = true := by
  rw [← List.nil_append (⟨.cancelIsSet site', again⟩ :: ys)] at calls
  obtain ⟨mid, rest, split, nothing, _⟩ := callsOf_split calls
  have first : true = cancelFlag.run pending pre := valid.enabled_at
  rw [split, ← List.cons_append, ← List.append_assoc] at valid
  have second : again = cancelFlag.run pending
      (pre ++ .call () ⟨.cancelIsSet site, true⟩ :: mid) := valid.enabled_at
  have quiet : ∀ c ∈ callsOf () mid, c.op.isSet = false ∧ c.op.isClear = false := by
    rw [nothing]
    exact fun c none => (by cases none)
  rw [second, Machine.run_append, ← first, Machine.run_cons]
  exact (cancelFlag_iff true fun c member => (quiet c member).1).mpr
    (Or.inl ⟨rfl, fun c member => (quiet c member).2⟩)

theorem readsSucceed_after_test (site : CancelSite) (answer : Bool)
    (ys : List (Call (effects K))) :
    ReadsSucceed (⟨.cancelIsSet site, answer⟩ :: ys) ↔ ReadsSucceed ys := by
  constructor
  · exact fun succeed read member => succeed read (List.mem_cons_of_mem _ member)
  · intro succeed read member
    rcases List.mem_cons.mp member with same | later
    · cases same
    · exact succeed read later

/-- Tests of the flag between quiet calls leave only the report to be judged. -/
theorem honoursStop_iff (out : Except Exc (ExecutionResult K)) (tests : List (Call (effects K)))
    {xs ys : List (Call (effects K))} (before : ∀ c ∈ xs, c.op.IsCartesian)
    (guards : ∀ c ∈ tests, c.op.isGuard = true)
    (after : ∀ c ∈ ys, c.op.IsQuiet) : HonoursStop out (xs ++ (tests ++ ys)) ↔ UserStop out := by
  constructor
  · exact And.right
  · intro user
    refine ⟨?_, user⟩
    intro c member joint
    simp only [List.mem_append] at member
    rcases member with inside | inside | inside
    · exact (before c inside).not_joint joint
    · obtain ⟨op, answer⟩ := c
      cases op with
      | cancelIsSet site => exact joint
      | _ => cases guards _ inside
    · exact (after c inside).cartesian.not_joint joint

/-- A finished ritual honours a stop exactly when some request, pending at entry or made
before the joint stage is decided on, is not consumed before that, and the robot's state
can be read for the report. -/
theorem goHomeSafe_honours_stop_iff {qHome : Option (List K)} {liftM : K}
    {openGripperWidth : Option K} {maxTcpSpeed maxJointSpeed : K} {robot robot' : Robot K}
    {out : Except Exc (ExecutionResult K)} {pending : Bool}
    (valid : cancelFlag.Valid pending events)
    (ran : Trace (goHomeSafe qHome liftM openGripperWidth maxTcpSpeed maxJointSpeed robot)
      (callsOf () events) (.done (out, robot'))) :
    HonoursStop out (callsOf () events) ↔
      Unconsumed pending (beforeGuard events) ∧ ReadsAfterGuard events := by
  have atGuard {pre post : List (Event (effects K) Unit Unit)} {site : CancelSite} {set : Bool}
      (split : events = pre ++ .call () ⟨.cancelIsSet site, set⟩ :: post)
      (before : ∀ d ∈ callsOf () pre, d.op.IsCartesian)
      (guard : (Op.cancelIsSet site : Op K).isGuard = true) :
      (set = true ↔ Unconsumed pending (beforeGuard events)) ∧
        (ReadsAfterGuard events ↔ ReadsSucceed (callsOf () post)) := by
    obtain ⟨ahead, behind⟩ := beforeGuard_eq split before guard
    rw [split] at valid
    have answered : set = cancelFlag.run pending pre := valid.enabled_at
    rw [ahead, ReadsAfterGuard, behind, callsOf_own, readsSucceed_after_test, answered]
    exact ⟨cancelFlag_iff pending fun c member => (before c member).not_set, Iff.rfl⟩
  have cases_at_guard := goHomeSafe_split ran
  generalize made : callsOf () events = calls at cases_at_guard
  cases cases_at_guard with
  | @contact xs ys stopped before after reported =>
      obtain ⟨pre, post, split, inPre, inPost⟩ := callsOf_split made
      obtain ⟨flag, reads⟩ := atGuard split (inPre ▸ before) rfl
      have honours := honoursStop_iff out [⟨.cancelIsSet .guardReason, stopped⟩] before
        (by simp [Op.isGuard]) after
      rw [List.singleton_append] at honours
      rw [honours, reported, flag, reads, inPost]
  | @pending xs ys stopped before after reported =>
      obtain ⟨pre, post, split, inPre, inPost⟩ := callsOf_split made
      obtain ⟨flag, reads⟩ := atGuard split (inPre ▸ before) rfl
      have again : stopped = true := reads_set_again (split ▸ valid) inPost
      have honours := honoursStop_iff out
        [⟨.cancelIsSet .guard, true⟩, ⟨.cancelIsSet .guardReason, stopped⟩] before
        (by simp [Op.isGuard]) after
      rw [List.cons_append, List.singleton_append] at honours
      rw [honours, reported, ← flag, reads, inPost, readsSucceed_after_test, again]
  | @swept xs ys before moved =>
      obtain ⟨pre, post, split, inPre, inPost⟩ := callsOf_split made
      obtain ⟨flag, reads⟩ := atGuard split (inPre ▸ before) rfl
      constructor
      · rintro ⟨still, result, ended, _⟩
        obtain ⟨c, member, joint⟩ := moved result ended
        exact absurd joint (still c (List.mem_append_right _ (List.mem_cons_of_mem _ member)))
      · rintro ⟨survives, _⟩
        cases flag.mpr survives

noncomputable def interrupted : List (Event (effects ℝ) Unit Unit) :=
  [.call () ⟨.facadeOwner, some "a"⟩, .call () ⟨.readState, .error ⟨.runtimeError, "no state"⟩⟩,
    .env (), .call () ⟨.cancelIsSet .guard, true⟩, .call () ⟨.cancelIsSet .guardReason, true⟩,
    .call () ⟨.readState, .ok zeroed⟩, .call () ⟨.publishState zeroed, ()⟩]

theorem goHomeSafe_honours_stop_interrupted :
    ∃ result, HonoursStop (.ok result) (callsOf () interrupted) := by
  have ran : ∃ result, Trace (goHomeSafe none (1 / 10) none (1 / 10) (3 / 10)
      (Robot.init {} tabletop : Robot ℝ)) (callsOf () interrupted)
        (.done (.ok result, Robot.init {} tabletop)) :=
    ⟨_, .cons (.cons (.cons (.cons (.cons (.cons (.nil _))))))⟩
  obtain ⟨result, ran⟩ := ran
  have valid : cancelFlag.Valid false interrupted :=
    ⟨trivial, trivial, trivial, rfl, rfl, trivial, trivial, trivial⟩
  refine ⟨result, (goHomeSafe_honours_stop_iff valid ran).mpr ⟨?_, ?_⟩⟩
  · exact Or.inr ⟨[_, _], [], rfl, fun c none => (by cases none)⟩
  · change ReadsSucceed [⟨.cancelIsSet .guard, true⟩, ⟨.cancelIsSet .guardReason, true⟩,
      ⟨.readState, .ok zeroed⟩, ⟨.publishState zeroed, ()⟩]
    rw [readsSucceed_after_test, readsSucceed_after_test]
    exact (readsSucceed_getState (getState_trace (Robot.init {} tabletop) zeroed)).mpr ⟨zeroed, rfl⟩

end Runs

section Consumed

def alone (calls : List (Call (effects ℝ))) : List (Event (effects ℝ) Unit Unit) :=
  calls.map (.call ())

theorem callsOf_alone (calls : List (Call (effects ℝ))) : callsOf () (alone calls) = calls := by
  induction calls with
  | nil => rfl
  | cons c calls ih =>
      change callsOf () (.call () c :: alone calls) = _
      rw [callsOf_own, ih]

def FindsClear : Call (effects ℝ) → Prop
  | ⟨.cancelIsSet _, answer⟩ => answer = false
  | ⟨.cancelSet, _⟩ => False
  | _ => True

theorem valid_alone {calls : List (Call (effects ℝ))} (clear : ∀ c ∈ calls, FindsClear c) :
    cancelFlag.Valid false (alone calls) := by
  induction calls with
  | nil => trivial
  | cons c calls ih =>
      rw [List.forall_mem_cons] at clear
      have rest := ih clear.2
      obtain ⟨op, answer⟩ := c
      cases op with
      | cancelIsSet site => exact ⟨clear.1, rest⟩
      | cancelSet => exact absurd clear.1 id
      | _ => exact ⟨trivial, rest⟩

theorem restChunk_findsClear (owner : String) (n : Nat) :
    ∀ c ∈ restChunk owner n, FindsClear c := by
  intro c member
  simp only [restChunk, clearTick, List.mem_append, List.mem_flatten, List.mem_replicate,
    List.mem_cons, List.not_mem_nil, or_false] at member
  rcases member with (rfl | rfl | rfl | rfl | rfl) | ⟨tick, ⟨_, rfl⟩, inTick⟩ | rfl | rfl | rfl
  case inr.inl =>
    simp only [List.mem_cons, List.not_mem_nil, or_false] at inTick
    rcases inTick with rfl | rfl | rfl | rfl | rfl
    · rfl
    · trivial
    · trivial
    · trivial
    · trivial
  all_goals trivial

noncomputable def consumed : List (Call (effects ℝ)) :=
  [⟨.facadeOwner, some "a"⟩, ⟨.readState, .ok zeroed⟩, ⟨.publishState zeroed, ()⟩,
    ⟨.facadeOwner, some "a"⟩, ⟨.cancelIsSet .entry, true⟩, ⟨.cancelClear, ()⟩,
    ⟨.readState, .ok zeroed⟩, ⟨.publishState zeroed, ()⟩, ⟨.chunkReturns false .user, ()⟩]

noncomputable def swept (n : Nat) : List (Call (effects ℝ)) :=
  [⟨.cancelIsSet .guard, false⟩, ⟨.facadeOwner, some "a"⟩, ⟨.readState, .ok zeroed⟩,
    ⟨.publishState zeroed, ()⟩, ⟨.write (jointImpedanceCall none false), .ok ()⟩] ++
  restChunk "a" n

theorem consumed_valid (n : Nat) : cancelFlag.Valid true (alone (consumed ++ swept n)) := by
  have clear : ∀ c ∈ swept n, FindsClear c := by
    intro c member
    rcases List.mem_append.mp member with first | later
    · simp only [List.mem_cons, List.not_mem_nil, or_false] at first
      rcases first with rfl | rfl | rfl | rfl | rfl
      · rfl
      · trivial
      · trivial
      · trivial
      · trivial
    · exact restChunk_findsClear "a" n c later
  rw [alone, List.map_append, Machine.valid_append]
  exact ⟨⟨trivial, trivial, trivial, trivial, rfl, trivial, trivial, trivial, trivial, trivial⟩,
    valid_alone clear⟩

/-- A stop pending at entry is consumed by the lift and the arm sweeps home. -/
theorem goHomeSafe_ignores_stop :
    ∃ events result robot', cancelFlag.Valid true events ∧
      Trace (goHomeSafe (some (uniform 0)) (1 / 10) none (1 / 10) (3 / 10)
        (Robot.init {} tabletop (some 1))) (callsOf () events) (.done (.ok result, robot')) ∧
      StopRequested true events ∧ result.success = true ∧
      ¬ HonoursStop (.ok result) (callsOf () events) := by
  let robot : Robot ℝ := Robot.init {} tabletop (some 1)
  obtain ⟨n, result, robot', success, moved⟩ :=
    @moveJoint_rest robot rfl rfl (3 / 10) (by norm_num) "a"
  have checked : Trace (checkLease robot) [⟨.facadeOwner, some "a"⟩] (.done (.ok (), robot)) :=
    .cons (.nil _)
  have lifted : ∃ log, Trace (liftStage (1 / 10) (1 / 10) robot)
      [⟨.readState, .ok zeroed⟩, ⟨.publishState zeroed, ()⟩, ⟨.facadeOwner, some "a"⟩,
        ⟨.cancelIsSet .entry, true⟩, ⟨.cancelClear, ()⟩, ⟨.readState, .ok zeroed⟩,
        ⟨.publishState zeroed, ()⟩, ⟨.chunkReturns false .user, ()⟩]
      (.done (.ok (log, false), robot)) :=
    ⟨_, .cons (.cons (.cons (.cons (.cons (.cons (.cons (.cons (.nil _))))))))⟩
  obtain ⟨log, lifted⟩ := lifted
  have skipped : Trace (gripperStage none log robot) [] (.done (.ok log, robot)) := .nil _
  have decided : Trace (homeForbidden false robot) [⟨.cancelIsSet .guard, false⟩]
      (.done (.ok false, robot)) := .cons (.nil _)
  have ran : Trace (goHomeSafe (some (uniform 0)) (1 / 10) none (1 / 10) (3 / 10) robot) _
      (.done (.ok (result.update log), robot')) :=
    Script.trace_then checked (Script.trace_then lifted (Script.trace_then skipped
      (Script.trace_then decided (Script.trace_then (x := get) (.nil _)
        (Script.trace_then moved (.nil _))))))
  refine ⟨alone (consumed ++ swept n), result.update log, robot', consumed_valid n, ?_, Or.inl rfl,
    (result.update_outcome log).1.trans success, ?_⟩
  · rw [callsOf_alone]
    rw [List.append_nil] at ran
    exact ran
  · rw [callsOf_alone]
    intro honours
    refine honours.1 ⟨.write (jointImpedanceCall none false), .ok ()⟩ ?_ rfl
    simp only [consumed, swept, List.mem_append, List.mem_cons, true_or, or_true]

end Consumed

end FlexivControl
