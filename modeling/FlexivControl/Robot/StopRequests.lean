/-
Stop requests over a sequence of blocking chunks.

Other threads may set the cancel flag between any two calls. A request is answered by the
chunk it finds in flight or by the next one, whoever tests the flag first. Every answer
takes a clear of its own, every clear a set flag, and every set flag a request.
-/

import FlexivControl.Robot.Cancellation
import FlexivControl.Robot.HomeStop

namespace FlexivControl

open Pool Script

variable {K : Type} [Scalar K]

inductive ChunkCall (K : Type) [Scalar K] where
  | cartesian (chunk : CartesianChunk K) (raiseOnStop record : Bool)
  | joint (chunk : JointChunk K) (raiseOnStop : Bool)

def ChunkCall.execute : ChunkCall K → RobotM K (ExecutionResult K)
  | .cartesian chunk raiseOnStop record => executeCartesianChunk chunk raiseOnStop record
  | .joint chunk raiseOnStop => executeJointChunk chunk raiseOnStop

/-- One call with what happened since the call before it, and how it ended. -/
structure Turn (K : Type) [Scalar K] where
  call : ChunkCall K
  events : List (Event (effects K) Unit Unit)
  outcome : Except Exc (ExecutionResult K)

def Turn.calls (turn : Turn K) : List (Call (effects K)) := callsOf () turn.events

/-- What the result of the turn says, whether it is returned or carried by an exception. -/
def Turn.result (turn : Turn K) : Option (Bool × StopReason) := firstReport turn.calls

def Turn.StoppedByUser (turn : Turn K) : Bool := turn.result.map Prod.snd = some .user

inductive InTurn : Robot K → List (Turn K) → Prop where
  | nil (robot : Robot K) : InTurn robot []
  | cons {robot robot' : Robot K} {turn : Turn K} {later : List (Turn K)}
      (ran : Trace (turn.call.execute robot) turn.calls (.done (turn.outcome, robot')))
      (rest : InTurn robot' later) : InTurn robot (turn :: later)

def eventsOf (turns : List (Turn K)) : List (Event (effects K) Unit Unit) :=
  turns.flatMap Turn.events

def Event.isRequest : Event (effects K) Unit Unit → Bool
  | .env _ => true
  | .call _ _ => false

def requestsAmong (events : List (Event (effects K) Unit Unit)) : Nat :=
  events.countP Event.isRequest

theorem wp_chunkCall (call : ChunkCall K) (robot : Robot K) :
    wp chunkStages call.execute ChunkEnds robot .outside := by
  cases call with
  | cartesian chunk raiseOnStop record => exact wp_executeCartesianChunk chunk raiseOnStop record robot
  | joint chunk raiseOnStop => exact wp_executeJointChunk chunk raiseOnStop robot

theorem turn_staged {turn : Turn K} {robot robot' : Robot K}
    (ran : Trace (turn.call.execute robot) turn.calls (.done (turn.outcome, robot'))) :
    chunkStages.Allowed .outside turn.calls ∧
      ChunkEnds turn.outcome robot' (chunkStages.run .outside turn.calls) :=
  Program.wp_sound (wp_chunkCall turn.call robot) ran
    (chunkStages.admitted_of_forall (fun _ _ => trivial) .outside _)

/-- What a chunk may do at a stage, and the stage it leaves. -/
inductive StageStep (stage : ChunkStage) : Call (effects K) → ChunkStage → Prop where
  | entry (set : Bool) (fresh : stage = .outside) :
      StageStep stage ⟨.cancelIsSet .entry, set⟩ (if set then .found else .ticking false)
  | tick (set mayStream : Bool) (ticking : stage = .ticking mayStream) :
      StageStep stage ⟨.cancelIsSet .tick, set⟩ (if set then .found else .ticking true)
  | clear (found : stage = .found) : StageStep stage ⟨.cancelClear, ()⟩ .cleared
  | stream {call : BackendCall K} {sp : Setpoint K} (answer : Except Exc Unit)
      (may : stage = .ticking true) (streams : call.setpoint = some sp) :
      StageStep stage ⟨.write call, answer⟩ (.ticking false)
  | report (success : Bool) (reason : StopReason) (reports : stage.Reports success reason) :
      StageStep stage ⟨.chunkReturns success reason, ()⟩ (.reported success reason)
  | work {c : Call (effects K)} (settled : stage ≠ .found) (mute : c.op.setpoint = none)
      (unreported : c.op.report = none)
      (steady : ∀ flag, cancelFlag.next flag (.call () c) = flag) :
      StageStep stage c (if stage = .cleared ∧ failedCall c = true then .failed else stage)

theorem stage_step {stage : ChunkStage} {c : Call (effects K)} (allowed : stage.Allows c.op) :
    StageStep stage c (stage.after c) := by
  obtain ⟨op, answer⟩ := c
  cases op with
  | cancelIsSet site =>
      cases site with
      | entry => exact .entry answer allowed
      | tick =>
          obtain ⟨mayStream, ticking⟩ := allowed
          exact .tick answer mayStream ticking
      | _ => exact absurd allowed id
  | cancelClear => exact .clear allowed
  | cancelSet => exact absurd allowed id
  | lockRelease robot => exact absurd allowed id
  | chunkReturns success reason => exact .report success reason allowed
  | write call =>
      cases call with
      | streamCartesian pose wrench => exact .stream answer allowed rfl
      | streamJoint q => exact .stream answer allowed rfl
      | _ => exact .work allowed rfl rfl fun _ => rfl
  | _ => exact .work allowed rfl rfl fun _ => rfl

def ChunkStage.Finished (stage : ChunkStage) : Prop :=
  stage.Raised ∨ ∃ success reason, stage = .reported success reason

theorem ChunkEnds.finished {out : Except Exc (ExecutionResult K)} {robot : Robot K}
    {stage : ChunkStage} (ended : ChunkEnds out robot stage) : stage.Finished := by
  cases out with
  | ok result => exact Or.inr ⟨_, _, ended⟩
  | error e => exact ended

def RaisesAfterClear (calls : List (Call (effects K))) : Prop :=
  ∃ xs ys, calls = xs ++ ⟨.cancelClear, ()⟩ :: ys ∧ ∃ c ∈ ys, failedCall c = true

def Answered (calls : List (Call (effects K))) : Prop :=
  firstReport calls = some (false, .user) ∨ RaisesAfterClear calls

section Stages

variable {c : Call (effects K)} {calls : List (Call (effects K))} {stage : ChunkStage}

theorem firstReport_cons (unreported : c.op.report = none) :
    firstReport (c :: calls) = firstReport calls := by
  rw [firstReport, List.findSome?_cons, unreported]
  rfl

theorem Answered.cons (answered : Answered calls) (unreported : c.op.report = none) :
    Answered (c :: calls) := by
  rcases answered with reported | ⟨xs, ys, split, failed⟩
  · exact Or.inl ((firstReport_cons unreported).trans reported)
  · exact Or.inr ⟨c :: xs, ys, by rw [split, List.cons_append], failed⟩

def ChunkStage.Closing : ChunkStage → Prop
  | .cleared => True
  | .failed => True
  | .reported _ _ => True
  | _ => False

theorem StageStep.closing {stage' : ChunkStage} (step : StageStep stage c stage')
    (closing : stage.Closing) : stage'.Closing ∧ c.op.setpoint = none := by
  cases step with
  | entry set fresh =>
      subst fresh
      exact absurd closing id
  | tick set mayStream ticking =>
      subst ticking
      exact absurd closing id
  | clear found =>
      subst found
      exact absurd closing id
  | stream answer may streams =>
      subst may
      exact absurd closing id
  | report success reason reports => exact ⟨trivial, rfl⟩
  | work settled mute unreported steady =>
      refine ⟨?_, mute⟩
      split
      · trivial
      · exact closing

theorem streamed_closing (allowed : chunkStages.Allowed stage calls) (closing : stage.Closing) :
    streamed calls = [] := by
  induction calls generalizing stage with
  | nil => rfl
  | cons c rest ih =>
      obtain ⟨still, mute⟩ := (stage_step allowed.1).closing closing
      rw [streamed_mute mute]
      exact ih allowed.2 still

/-- Behind its clear a chunk reports the stop, unless a read or the stop command raises. -/
theorem cleared_answers (allowed : chunkStages.Allowed .cleared calls)
    (finished : (chunkStages.run .cleared calls).Finished) :
    firstReport calls = some (false, .user) ∨ ∃ c ∈ calls, failedCall c = true := by
  induction calls with
  | nil =>
      rcases finished with (failed | ⟨_, ticking⟩) | ⟨_, _, reported⟩
      · cases failed
      · cases ticking
      · cases reported
  | cons c rest ih =>
      obtain ⟨now, later⟩ := allowed
      have step := stage_step now
      change chunkStages.Allowed (ChunkStage.cleared.after c) rest at later
      change (chunkStages.run (ChunkStage.cleared.after c) rest).Finished at finished
      generalize ChunkStage.cleared.after c = stage' at step later finished
      cases step with
      | entry set fresh => cases fresh
      | tick set mayStream ticking => cases ticking
      | clear found => cases found
      | stream answer may streams => cases may
      | report success reason reports =>
          rcases reports with ⟨_, impossible, _⟩ | ⟨_, failed, user⟩
          · cases impossible
          · subst failed
            subst user
            exact Or.inl rfl
      | work settled mute unreported steady =>
          cases fails : failedCall c with
          | true => exact Or.inr ⟨c, List.mem_cons_self, fails⟩
          | false =>
              rw [fails, if_neg (fun both => by cases both.2)] at later finished
              rcases ih later finished with reported | ⟨d, member, failed⟩
              · exact Or.inl ((firstReport_cons unreported).trans reported)
              · exact Or.inr ⟨d, List.mem_cons_of_mem c member, failed⟩

end Stages

/-! ### The flag beside a chunk -/

section Flag

variable {events : List (Event (effects K) Unit Unit)} {stage : ChunkStage}

theorem flag_closing (allowed : chunkStages.Allowed stage (callsOf () events))
    (closing : stage.Closing) : cancelFlag.run true events = true := by
  induction events generalizing stage with
  | nil => rfl
  | cons e rest ih =>
      cases e with
      | env move => exact ih allowed closing
      | call t c =>
          rw [callsOf_own] at allowed
          obtain ⟨now, later⟩ := allowed
          have step := stage_step now
          obtain ⟨still, _⟩ := step.closing closing
          have kept : cancelFlag.next true (.call t c) = true := by
            change chunkStages.Allowed (stage.after c) _ at later
            generalize stage.after c = stage' at step
            cases step with
            | clear found =>
                subst found
                exact absurd closing id
            | work settled mute unreported steady => exact steady true
            | _ => rfl
          rw [Machine.run_cons, kept]
          exact ih later still

/-- From where the flag is set a chunk streams at most the setpoint it has tested for. It
answers, or it leaves the flag set; and it answers when it has yet to enter. -/
def HeedsFlag (stage : ChunkStage) (events : List (Event (effects K) Unit Unit)) : Prop :=
  (streamed (callsOf () events)).length ≤ (if stage = .ticking true then 1 else 0) ∧
    (Answered (callsOf () events) ∨
      (cancelFlag.run true events = true ∧ stage ≠ .outside ∧ stage ≠ .found))

theorem ChunkStage.Finished.entered (finished : stage.Finished) :
    stage ≠ .outside ∧ stage ≠ .found := by
  rcases finished with (same | ⟨_, same⟩) | ⟨_, _, same⟩
  all_goals
    subst same
    exact ⟨fun impossible => (by cases impossible), fun impossible => by cases impossible⟩

theorem HeedsFlag.test {t : Unit} {c : Call (effects K)} (mute : c.op.setpoint = none)
    (unreported : c.op.report = none) (later : HeedsFlag .found events) :
    HeedsFlag stage (.call t c :: events) := by
  obtain ⟨few, answered | ⟨_, _, impossible⟩⟩ := later
  · rw [if_neg (fun impossible => by cases impossible)] at few
    rw [HeedsFlag, callsOf_own, streamed_mute mute]
    exact ⟨few.trans (Nat.zero_le _), Or.inl (answered.cons unreported)⟩
  · exact absurd rfl impossible

theorem HeedsFlag.work {t : Unit} {c : Call (effects K)} (mute : c.op.setpoint = none)
    (unreported : c.op.report = none) (steady : cancelFlag.next true (.call t c) = true)
    (later : HeedsFlag stage events) : HeedsFlag stage (.call t c :: events) := by
  rw [HeedsFlag, callsOf_own, streamed_mute mute, Machine.run_cons, steady]
  exact ⟨later.1, later.2.imp_left fun answered => answered.cons unreported⟩

theorem HeedsFlag.closes {t : Unit} {c : Call (effects K)} {stage' : ChunkStage}
    (mute : c.op.setpoint = none) (steady : cancelFlag.next true (.call t c) = true)
    (entered : stage ≠ .outside ∧ stage ≠ .found)
    (later : chunkStages.Allowed stage' (callsOf () events)) (closing : stage'.Closing) :
    HeedsFlag stage (.call t c :: events) := by
  rw [HeedsFlag, callsOf_own, streamed_mute mute, streamed_closing later closing,
    Machine.run_cons, steady]
  exact ⟨Nat.zero_le _, Or.inr ⟨flag_closing later closing, entered⟩⟩

theorem heeds_flag (valid : cancelFlag.Valid true events)
    (allowed : chunkStages.Allowed stage (callsOf () events))
    (finished : (chunkStages.run stage (callsOf () events)).Finished) : HeedsFlag stage events := by
  induction events generalizing stage with
  | nil => exact ⟨Nat.zero_le _, Or.inr ⟨rfl, finished.entered⟩⟩
  | cons e rest ih =>
      cases e with
      | env move => exact ih valid.2 allowed finished
      | call t c =>
          obtain ⟨answers, valid⟩ := valid
          rw [callsOf_own] at allowed finished
          obtain ⟨now, later⟩ := allowed
          have step := stage_step now
          change chunkStages.Allowed (stage.after c) _ at later
          change (chunkStages.run (stage.after c) _).Finished at finished
          generalize stage.after c = stage' at step later finished
          cases step with
          | entry set fresh =>
              have found : set = true := answers
              subst found
              exact (ih valid later finished).test rfl rfl
          | tick set mayStream ticking =>
              have found : set = true := answers
              subst found
              exact (ih valid later finished).test rfl rfl
          | clear found =>
              rw [HeedsFlag, callsOf_own, streamed_mute rfl, streamed_closing later trivial]
              refine ⟨Nat.zero_le _, Or.inl ?_⟩
              rcases cleared_answers later finished with reported | failed
              · exact Or.inl ((firstReport_cons rfl).trans reported)
              · exact Or.inr ⟨[], _, rfl, failed⟩
          | @stream call sp answer may streams =>
              obtain ⟨few, heeded⟩ := ih valid later finished
              have sent : (⟨.write call, answer⟩ : Call (effects K)).op.setpoint = some sp := streams
              rw [if_neg (fun impossible => by cases impossible)] at few
              subst may
              rw [HeedsFlag, callsOf_own, if_pos rfl, streamed_setpoint sent, List.length_cons]
              refine ⟨Nat.succ_le_succ few, ?_⟩
              rcases heeded with answered | ⟨set, _⟩
              · exact Or.inl (answered.cons rfl)
              · exact Or.inr ⟨set, fun impossible => (by cases impossible),
                  fun impossible => by cases impossible⟩
          | report success reason reports =>
              rcases reports with ⟨mayStream, ticking, _⟩ | ⟨_, failed, user⟩
              · subst ticking
                exact .closes rfl rfl ⟨fun impossible => (by cases impossible),
                  fun impossible => by cases impossible⟩ later trivial
              · subst failed
                subst user
                rw [HeedsFlag, callsOf_own, streamed_mute rfl, streamed_closing later trivial]
                exact ⟨Nat.zero_le _, Or.inl (Or.inl rfl)⟩
          | work settled mute unreported steady =>
              have kept : cancelFlag.next true (.call t c) = true := steady true
              rw [kept] at valid
              by_cases raises : stage = .cleared ∧ failedCall c = true
              · rw [if_pos raises] at later
                rw [raises.1]
                exact .closes mute kept ⟨fun impossible => (by cases impossible),
                  fun impossible => by cases impossible⟩ later trivial
              · rw [if_neg raises] at later finished
                exact (ih valid later finished).work mute unreported kept

def outstanding (stage : ChunkStage) (flag : Bool) : Nat :=
  (if stage = .cleared then 1 else 0) + flag.toNat

theorem outstanding_of_ne (flag : Bool) (owesNothing : stage ≠ .cleared) :
    outstanding stage flag = flag.toNat := by
  rw [outstanding, if_neg owesNothing, Nat.zero_add]

def reportsUser (c : Call (effects K)) : Nat :=
  if c.op.report.map Prod.snd = some .user then 1 else 0

/-- A report that names the user settles a cleared request, a clear takes the flag. -/
theorem StageStep.covered {t : Unit} {c : Call (effects K)} {stage' : ChunkStage} {flag : Bool}
    (step : StageStep stage c stage') (answers : cancelFlag.enabled flag (.call t c))
    (taken : stage = .found → flag = true) :
    (stage' = .found → cancelFlag.next flag (.call t c) = true) ∧
      reportsUser c + outstanding stage' (cancelFlag.next flag (.call t c)) ≤
        outstanding stage flag := by
  cases step with
  | entry set fresh =>
      have found : set = flag := answers
      subst found
      subst fresh
      cases set with
      | true => exact ⟨fun _ => rfl, Nat.le_refl _⟩
      | false => exact ⟨fun impossible => (by cases impossible), Nat.le_refl _⟩
  | tick set mayStream ticking =>
      have found : set = flag := answers
      subst found
      subst ticking
      cases set with
      | true => exact ⟨fun _ => rfl, Nat.le_refl _⟩
      | false => exact ⟨fun impossible => (by cases impossible), Nat.le_refl _⟩
  | clear found =>
      rw [taken found, found]
      exact ⟨fun impossible => (by cases impossible), Nat.le_refl _⟩
  | stream answer may streams =>
      subst may
      exact ⟨fun impossible => (by cases impossible), Nat.le_of_eq (Nat.zero_add _)⟩
  | report success reason reports =>
      refine ⟨fun impossible => (by cases impossible), ?_⟩
      rw [outstanding_of_ne _ fun impossible => by cases impossible]
      rcases reports with ⟨mayStream, ticking, other⟩ | ⟨cleared, _, user⟩
      · have silent : reportsUser (⟨.chunkReturns success reason, ()⟩ : Call (effects K)) = 0 :=
          if_neg fun named => other (Option.some.inj named)
        rw [silent, Nat.zero_add, ticking,
          outstanding_of_ne _ fun impossible => by cases impossible]
        exact Nat.le_refl _
      · subst cleared
        subst user
        exact Nat.le_refl _
  | work settled mute unreported steady =>
      have silent : reportsUser c = 0 := by
        rw [reportsUser, unreported]
        rfl
      have kept : cancelFlag.next flag (.call t c) = flag := steady flag
      rw [kept, silent, Nat.zero_add]
      split
      · rw [outstanding_of_ne _ fun impossible => by cases impossible]
        exact ⟨fun impossible => (by cases impossible), Nat.le_add_left _ _⟩
      · exact ⟨taken, Nat.le_refl _⟩

def userReports (calls : List (Call (effects K))) : Nat := (calls.map reportsUser).sum

theorem reports_covered {flag : Bool} (taken : stage = .found → flag = true)
    (valid : cancelFlag.Valid flag events)
    (allowed : chunkStages.Allowed stage (callsOf () events)) :
    userReports (callsOf () events) + (cancelFlag.run flag events).toNat ≤
      requestsAmong events + outstanding stage flag := by
  induction events generalizing stage flag with
  | nil => exact Nat.add_le_add (Nat.zero_le 0) (Nat.le_add_left _ _)
  | cons e rest ih =>
      cases e with
      | env move =>
          have later := ih (fun _ => rfl) valid.2 allowed
          have counted : requestsAmong (.env move :: rest) = requestsAmong rest + 1 :=
            List.countP_cons_of_pos rfl
          have raised : outstanding stage true ≤ outstanding stage flag + 1 := by
            cases flag
            · exact Nat.le_refl _
            · exact Nat.le_succ _
          change userReports (callsOf () rest) + (cancelFlag.run true rest).toNat ≤ _
          omega
      | call t c =>
          rw [callsOf_own] at allowed ⊢
          obtain ⟨found, covered⟩ := (stage_step allowed.1).covered valid.1 taken
          have later := ih found valid.2 allowed.2
          have counted : requestsAmong (.call t c :: rest) = requestsAmong rest :=
            List.countP_cons_of_neg Bool.false_ne_true
          have reported : userReports (c :: callsOf () rest) =
              reportsUser c + userReports (callsOf () rest) := List.sum_cons
          change _ + (cancelFlag.run (cancelFlag.next flag (.call t c)) rest).toNat ≤ _
          omega

end Flag

/-! ### The sequence -/

section Turns

variable {turn : Turn K} {turns : List (Turn K)} {robot robot' : Robot K} {flag : Bool}

theorem reported_stays {success : Bool} {reason : StopReason} {calls : List (Call (effects K))}
    (allowed : chunkStages.Allowed (.reported success reason) calls) :
    chunkStages.run (.reported success reason) calls = .reported success reason := by
  induction calls with
  | nil => rfl
  | cons c rest ih =>
      obtain ⟨now, later⟩ := allowed
      have step := stage_step now
      change chunkStages.Allowed ((ChunkStage.reported success reason).after c) rest at later
      change chunkStages.run ((ChunkStage.reported success reason).after c) rest = _
      generalize (ChunkStage.reported success reason).after c = stage' at step later
      cases step with
      | entry set fresh => cases fresh
      | tick set mayStream ticking => cases ticking
      | clear found => cases found
      | stream answer may streams => cases may
      | report success' reason' reports =>
          rcases reports with ⟨_, impossible, _⟩ | ⟨impossible, _⟩
          · cases impossible
          · cases impossible
      | work settled mute unreported steady =>
          rw [if_neg (fun both => by cases both.1)] at later ⊢
          exact ih later

theorem firstReport_of_reported {stage : ChunkStage} {calls : List (Call (effects K))}
    {success : Bool} {reason : StopReason} (allowed : chunkStages.Allowed stage calls)
    (unreported : stage ≠ .reported success reason)
    (ended : chunkStages.run stage calls = .reported success reason) :
    firstReport calls = some (success, reason) := by
  induction calls generalizing stage with
  | nil => exact absurd ended unreported
  | cons c rest ih =>
      obtain ⟨now, later⟩ := allowed
      have step := stage_step now
      change chunkStages.Allowed (stage.after c) rest at later
      change chunkStages.run (stage.after c) rest = _ at ended
      generalize stage.after c = stage' at step later ended
      have goes_on (silent : c.op.report = none) (still : stage' ≠ .reported success reason) :
          firstReport (c :: rest) = some (success, reason) :=
        (firstReport_cons silent).trans (ih later still ended)
      cases step with
      | entry set fresh => exact goes_on rfl (by cases set <;> exact fun impossible => by cases impossible)
      | tick set mayStream ticking =>
          exact goes_on rfl (by cases set <;> exact fun impossible => by cases impossible)
      | clear found => exact goes_on rfl fun impossible => by cases impossible
      | stream answer may streams => exact goes_on rfl fun impossible => by cases impossible
      | report success' reason' reports =>
          rw [reported_stays later] at ended
          cases ended
          rfl
      | work settled mute silent steady =>
          refine goes_on silent ?_
          split
          · exact fun impossible => by cases impossible
          · exact unreported

theorem turn_result
    (ran : Trace (turn.call.execute robot) turn.calls (.done (turn.outcome, robot')))
    {result : ExecutionResult K} (returned : turn.outcome = .ok result) :
    turn.result = some (result.success, result.stopReason) := by
  obtain ⟨allowed, ended⟩ := turn_staged ran
  rw [returned] at ended
  exact firstReport_of_reported allowed (fun impossible => by cases impossible) ended

theorem turn_heeds
    (ran : Trace (turn.call.execute robot) turn.calls (.done (turn.outcome, robot')))
    (valid : cancelFlag.Valid flag turn.events)
    {pre post : List (Event (effects K) Unit Unit)} (split : turn.events = pre ++ .env () :: post) :
    (streamed (callsOf () post)).length ≤ 1 ∧
      (Answered (callsOf () post) ∨ cancelFlag.run flag turn.events = true) := by
  obtain ⟨allowed, ended⟩ := turn_staged ran
  have finished := ended.finished
  rw [Turn.calls, split, callsOf_append, callsOf_env] at allowed finished
  rw [Monitor.run_append] at finished
  rw [split, Machine.valid_append] at valid
  obtain ⟨few, heeded⟩ := heeds_flag valid.2.2
    ((chunkStages.allowed_append _ _ _).mp allowed).2 finished
  constructor
  · refine few.trans ?_
    split
    · exact Nat.le_refl 1
    · exact Nat.zero_le 1
  · rw [split, Machine.run_append]
    exact heeded.imp_right fun pending => pending.1

/-- A flag set before a chunk enters is answered by it before it streams anything. -/
theorem pending_heeded
    (ran : Trace (turn.call.execute robot) turn.calls (.done (turn.outcome, robot')))
    (valid : cancelFlag.Valid true turn.events) :
    streamed turn.calls = [] ∧ Answered turn.calls := by
  obtain ⟨allowed, ended⟩ := turn_staged ran
  obtain ⟨few, answered | ⟨_, entered, _⟩⟩ := heeds_flag valid allowed ended.finished
  · exact ⟨List.eq_nil_of_length_eq_zero (Nat.le_zero.mp few), answered⟩
  · exact absurd rfl entered

theorem stoppedByUser_le (turn : Turn K) :
    (if turn.StoppedByUser then 1 else 0) ≤ userReports turn.calls := by
  unfold Turn.StoppedByUser Turn.result
  generalize turn.calls = calls
  induction calls with
  | nil => exact Nat.le_refl 0
  | cons c rest ih =>
      have counted : userReports (c :: rest) = reportsUser c + userReports rest := List.sum_cons
      rw [counted]
      cases reports : c.op.report with
      | none =>
          rw [firstReport_cons reports]
          exact ih.trans (Nat.le_add_left _ _)
      | some report =>
          have first : firstReport (c :: rest) = some report := by
            rw [firstReport, List.findSome?_cons, reports]
          rw [first, reportsUser, reports]
          split
          · rename_i user
            rw [if_pos (of_decide_eq_true user)]
            exact Nat.le_add_right 1 _
          · exact Nat.zero_le _

theorem turn_covered
    (ran : Trace (turn.call.execute robot) turn.calls (.done (turn.outcome, robot')))
    (valid : cancelFlag.Valid flag turn.events) :
    (if turn.StoppedByUser then 1 else 0) + (cancelFlag.run flag turn.events).toNat ≤
      requestsAmong turn.events + flag.toNat := by
  have covered := reports_covered (fun impossible => by cases impossible) valid (turn_staged ran).1
  rw [outstanding_of_ne flag fun impossible => by cases impossible] at covered
  exact (Nat.add_le_add_right (stoppedByUser_le turn) _).trans covered

/-- What the law of requests says of a request that finds these calls still to come in the
chunk in flight, and these turns behind it. -/
def RequestHeeded (calls : List (Call (effects K))) (later : List (Turn K)) : Prop :=
  (streamed calls).length ≤ 1 ∧
    (Answered calls ∨ ∀ next ∈ later.head?, streamed next.calls = [] ∧ Answered next.calls)

theorem inTurn_heeds (made : InTurn robot turns) (valid : cancelFlag.Valid flag (eventsOf turns))
    {earlier later : List (Turn K)} {pre post : List (Event (effects K) Unit Unit)}
    (place : turns = earlier ++ turn :: later) (split : turn.events = pre ++ .env () :: post) :
    RequestHeeded (callsOf () post) later := by
  induction made generalizing flag earlier with
  | nil robot => exact absurd place.symm (List.append_ne_nil_of_right_ne_nil _ (List.cons_ne_nil _ _))
  | @cons robot robot' first rest ran made ih =>
      have both : cancelFlag.Valid flag (first.events ++ eventsOf rest) := valid
      rw [Machine.valid_append] at both
      cases earlier with
      | cons before earlier =>
          obtain ⟨_, place⟩ := List.cons.inj place
          exact ih both.2 place
      | nil =>
          obtain ⟨same, behind⟩ := List.cons.inj place
          subst same
          subst behind
          obtain ⟨few, heeded⟩ := turn_heeds ran both.1 split
          refine ⟨few, heeded.imp_right fun pending => ?_⟩
          rw [pending] at both
          intro next head
          cases made with
          | nil robot => cases head
          | cons nextRan _ =>
              cases head
              have nextValid : cancelFlag.Valid true (next.events ++ eventsOf _) := both.2
              rw [Machine.valid_append] at nextValid
              exact pending_heeded nextRan nextValid.1

theorem inTurn_covered (made : InTurn robot turns)
    (valid : cancelFlag.Valid flag (eventsOf turns)) :
    turns.countP Turn.StoppedByUser ≤ requestsAmong (eventsOf turns) + flag.toNat := by
  have covered : turns.countP Turn.StoppedByUser + (cancelFlag.run flag (eventsOf turns)).toNat ≤
      requestsAmong (eventsOf turns) + flag.toNat := by
    induction made generalizing flag with
    | nil robot => exact Nat.le_refl _
    | @cons robot robot' first rest ran made ih =>
        have both : cancelFlag.Valid flag (first.events ++ eventsOf rest) := valid
        rw [Machine.valid_append] at both
        have now := turn_covered ran both.1
        have later := ih both.2
        have requested : requestsAmong (eventsOf (first :: rest)) =
            requestsAmong first.events + requestsAmong (eventsOf rest) := List.countP_append
        have reached : cancelFlag.run flag (eventsOf (first :: rest)) =
            cancelFlag.run (cancelFlag.run flag first.events) (eventsOf rest) :=
          cancelFlag.run_append flag first.events (eventsOf rest)
        rw [List.countP_cons, requested, reached]
        omega
  omega

theorem inTurn_result (made : InTurn robot turns) (member : turn ∈ turns)
    {result : ExecutionResult K} (returned : turn.outcome = .ok result) :
    turn.result = some (result.success, result.stopReason) := by
  induction made with
  | nil robot => cases member
  | cons ran made ih =>
      rcases List.mem_cons.mp member with same | later
      · subst same
        exact turn_result ran returned
      · exact ih later

end Turns

/-- Every stop request is answered by the chunk in flight or by the next one, after one more
setpoint at most, unless that chunk raises behind its clear; and no more chunks are stopped
by the user than stops were requested. -/
theorem cancel_answered_once {robot : Robot K} {turns : List (Turn K)} {pending : Bool}
    (made : InTurn robot turns) (valid : cancelFlag.Valid pending (eventsOf turns)) :
    (∀ earlier turn later pre post, turns = earlier ++ turn :: later →
      turn.events = pre ++ .env () :: post → RequestHeeded (callsOf () post) later) ∧
    turns.countP Turn.StoppedByUser ≤ requestsAmong (eventsOf turns) + pending.toNat ∧
    ∀ turn ∈ turns, ∀ result, turn.outcome = .ok result →
      turn.result = some (result.success, result.stopReason) :=
  ⟨fun _ _ _ _ _ place split => inTurn_heeds made valid place split, inTurn_covered made valid,
    fun _ member _ returned => inTurn_result made member returned⟩

section Entry

theorem second_timed : (none : Option Int).isSome ∨ (some (1 : ℝ)).isSome := Or.inr rfl

noncomputable def restingSecond : ChunkCall ℝ :=
  .joint { waypoints := [{ positions := uniform 0, duration := some 1, timed := second_timed }]
           nonempty := List.cons_ne_nil _ _ } false

noncomputable def findsRequest (rest : List (Call (effects ℝ))) :
    List (Event (effects ℝ) Unit Unit) :=
  .env () :: alone ([⟨.facadeOwner, some "a"⟩, ⟨.cancelIsSet .entry, true⟩, ⟨.cancelClear, ()⟩] ++ rest)

noncomputable def answeredTurn : Turn ℝ where
  call := restingSecond
  events := findsRequest [⟨.readState, .ok zeroed⟩, ⟨.publishState zeroed, ()⟩,
    ⟨.chunkReturns false .user, ()⟩]
  outcome := .ok { (({} : ExecutionResult ℝ).stop .user).note "aborted_at_entry" (.flag true) with
    finalState := some zeroed }

noncomputable def spentTurn : Turn ℝ where
  call := restingSecond
  events := findsRequest [⟨.readState, .error ⟨.runtimeError, "no state"⟩⟩]
  outcome := .error ⟨.runtimeError, "no state"⟩

theorem cancel_answered_once_entry :
    RequestHeeded answeredTurn.calls [] ∧
      [answeredTurn].countP Turn.StoppedByUser ≤ requestsAmong (eventsOf [answeredTurn]) := by
  have ran : Trace (answeredTurn.call.execute (Robot.init {} tabletop)) answeredTurn.calls
      (.done (answeredTurn.outcome, Robot.init {} tabletop)) :=
    .cons (.cons (.cons (.cons (.cons (.cons (.nil _))))))
  have valid : cancelFlag.Valid false (eventsOf [answeredTurn]) :=
    ⟨trivial, trivial, rfl, trivial, trivial, trivial, trivial, trivial⟩
  obtain ⟨heeded, covered, _⟩ := cancel_answered_once (.cons ran (.nil _)) valid
  exact ⟨heeded [] answeredTurn [] [] answeredTurn.events.tail rfl rfl, covered⟩

/-- The request is spent by a chunk that raises, and the next chunk runs to its end. -/
theorem spent_request_unanswered :
    ∃ (robot : Robot ℝ) (next : Turn ℝ) (post : List (Event (effects ℝ) Unit Unit)),
      InTurn robot [spentTurn, next] ∧ cancelFlag.Valid false (eventsOf [spentTurn, next]) ∧
        spentTurn.events = .env () :: post ∧
        firstReport (callsOf () post) ≠ some (false, .user) ∧
        ∃ reason, next.result = some (true, reason) := by
  let robot : Robot ℝ := Robot.init {} tabletop (some 1)
  have spent : Trace (spentTurn.call.execute robot) spentTurn.calls
      (.done (spentTurn.outcome, robot)) := .cons (.cons (.cons (.cons (.nil _))))
  obtain ⟨n, result, robot', success, executed⟩ : ∃ n result robot', result.success = true ∧
      Trace (restingSecond.execute robot) (restChunk "a" n) (.done (.ok result, robot')) :=
    ⟨_, @executeJointChunk_rest robot rfl rfl _ _ rfl rfl (Or.inl rfl) "a"⟩
  let next : Turn ℝ := ⟨restingSecond, alone (restChunk "a" n), .ok result⟩
  have ran : Trace (next.call.execute robot) next.calls (.done (next.outcome, robot')) := by
    rw [Turn.calls, callsOf_alone]
    exact executed
  refine ⟨robot, next, _, .cons spent (.cons ran (.nil robot')), ?_, rfl,
    fun impossible => (by cases impossible), result.stopReason, ?_⟩
  · have clear := valid_alone (restChunk_findsClear "a" n)
    have whole : eventsOf [spentTurn, next] = spentTurn.events ++ alone (restChunk "a" n) :=
      congrArg (spentTurn.events ++ ·) (List.append_nil _)
    rw [whole, Machine.valid_append]
    exact ⟨⟨trivial, trivial, rfl, trivial, trivial, trivial⟩, clear⟩
  · rw [← success]
    exact turn_result ran rfl

end Entry

end FlexivControl
