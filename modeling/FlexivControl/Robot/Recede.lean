/-
Receding-horizon execution: observe, have the policy plan a chunk, have it approved, execute
it, and again.

The policy, the gate and the step hook are the caller's, and the robot is anything that
reports a state and executes chunks, so all their answers are left open. The loop is
followed for any number of cycles.
-/

import FlexivControl.Library.Raising
import FlexivControl.Robot.Untouched

namespace FlexivControl

open Script

section Runner

variable (K Obs : Type) [Scalar K]

inductive HorizonOp where
  | observe
  | policy (obs : Obs)
  | onPropose (step : Nat) (chunk : CartesianChunk K)
  | executeCartesianChunk (chunk : CartesianChunk K)
  | onStep (step : Nat) (chunk : CartesianChunk K) (result : ExecutionResult K)

variable {K Obs}

abbrev HorizonOp.Answer : HorizonOp K Obs → Type
  | .observe => Obs
  | .policy _ => Option (CartesianChunk K)
  | .onPropose _ _ => Bool
  | .executeCartesianChunk _ => ExecutionResult K
  | .onStep _ _ _ => Option Bool

variable (K Obs)

abbrev horizonEffects : Signature := .raising (HorizonOp K Obs) HorizonOp.Answer Exc

abbrev HorizonM (α : Type) := Script (horizonEffects K Obs) Unit Exc α

variable {K Obs}

abbrev consult (op : HorizonOp K Obs) : HorizonM K Obs op.Answer := Script.request op

/-- `on_step` and `on_propose` are optional. -/
structure RecedingHorizonRunner where
  maxSteps : Option Int := none
  watched : Bool := false
  gated : Bool := false

namespace RecedingHorizonRunner

def mayStep (runner : RecedingHorizonRunner) (steps : Nat) : Bool :=
  match runner.maxSteps with
  | none => true
  | some maxSteps => decide ((steps : Int) < maxSteps)

/-- One cycle: the chunks executed by then, and whether the loop goes on. -/
def cycle (runner : RecedingHorizonRunner) (steps : Nat) : HorizonM K Obs (Nat × Bool) := do
  let obs ← consult .observe
  match ← consult (.policy obs) with
  | none => pure (steps, false)
  | some chunk => do
      let approved ← if runner.gated then consult (.onPropose (steps + 1) chunk) else pure true
      if approved then do
        let result ← consult (.executeCartesianChunk chunk)
        let verdict ←
          if runner.watched then consult (.onStep (steps + 1) chunk result) else pure none
        pure (steps + 1, decide (verdict ≠ some false))
      else pure (steps, false)

/-- The loop for so many cycles. The flag says whether it is still running after them. -/
def run (runner : RecedingHorizonRunner) : Nat → Nat → HorizonM K Obs (Nat × Bool)
  | 0, steps => pure (steps, true)
  | cycles + 1, steps => do
      if runner.mayStep steps then
        let (steps, goOn) ← runner.cycle steps
        if goOn then runner.run cycles steps else pure (steps, false)
      else pure (steps, false)

end RecedingHorizonRunner

def executedChunk : Call (horizonEffects K Obs) → Option (CartesianChunk K × ExecutionResult K)
  | ⟨.executeCartesianChunk chunk, .ok result⟩ => some (chunk, result)
  | _ => none

def executions (calls : List (Call (horizonEffects K Obs))) :
    List (CartesianChunk K × ExecutionResult K) :=
  calls.filterMap executedChunk

def Unraised (calls : List (Call (horizonEffects K Obs))) : Prop :=
  ∀ c ∈ calls, ∃ answer, c.resp = .ok answer

/-- The loop goes on after this answer: a plan, an approval, anything but `False` from the
hook. -/
def HorizonOp.GoesOn : (op : HorizonOp K Obs) → op.Answer → Prop
  | .policy _, plan => plan ≠ none
  | .onPropose _ _, approved => approved = true
  | .onStep _ _ _, verdict => verdict ≠ some false
  | .observe, _ => True
  | .executeCartesianChunk _, _ => True

def GoesOn (c : Call (horizonEffects K Obs)) : Prop :=
  ∃ answer, c.resp = .ok answer ∧ c.op.GoesOn answer

def Continuing (calls : List (Call (horizonEffects K Obs))) : Prop := ∀ c ∈ calls, GoesOn c

def planCalls (obs : Obs) (chunk : CartesianChunk K) : List (Call (horizonEffects K Obs)) :=
  [⟨.observe, .ok obs⟩, ⟨.policy obs, .ok (some chunk)⟩]

def approvalCalls (runner : RecedingHorizonRunner) (step : Nat) (chunk : CartesianChunk K) :
    List (Call (horizonEffects K Obs)) :=
  if runner.gated then [⟨.onPropose step chunk, .ok true⟩] else []

/-- What may be asked after which calls: an observation while everything has gone on, a plan
for the observation made last, an approval for the plan made last, and the execution of
nothing but that plan, if it has been approved. -/
inductive MayAsk (runner : RecedingHorizonRunner) :
    List (Call (horizonEffects K Obs)) → HorizonOp K Obs → Prop where
  | observe (before : List (Call (horizonEffects K Obs))) (continuing : Continuing before)
      (may : runner.mayStep (executions before).length = true) : MayAsk runner before .observe
  | policy (before : List (Call (horizonEffects K Obs))) (obs : Obs) :
      MayAsk runner (before ++ [⟨.observe, .ok obs⟩]) (.policy obs)
  | onPropose (before : List (Call (horizonEffects K Obs))) (obs : Obs) (chunk : CartesianChunk K)
      (gated : runner.gated = true) :
      MayAsk runner (before ++ planCalls obs chunk)
        (.onPropose ((executions before).length + 1) chunk)
  | executeCartesianChunk (before : List (Call (horizonEffects K Obs))) (obs : Obs)
      (chunk : CartesianChunk K) (may : runner.mayStep (executions before).length = true) :
      MayAsk runner (before ++ (planCalls obs chunk ++
        approvalCalls runner ((executions before).length + 1) chunk)) (.executeCartesianChunk chunk)
  | onStep (before : List (Call (horizonEffects K Obs))) (chunk : CartesianChunk K)
      (result : ExecutionResult K) (watched : runner.watched = true) :
      MayAsk runner (before ++ [⟨.executeCartesianChunk chunk, .ok result⟩])
        (.onStep ((executions before).length + 1) chunk result)

/-- How the loop ends: it counts the chunks executed, or hands on what has been raised. -/
inductive HorizonEnd (runner : RecedingHorizonRunner) :
    List (Call (horizonEffects K Obs)) → Except Exc (Nat × Bool) → Prop where
  | counted (calls : List (Call (horizonEffects K Obs))) (unraised : Unraised calls) (goOn : Bool) :
      HorizonEnd runner calls (.ok ((executions calls).length, goOn))
  | raised (before : List (Call (horizonEffects K Obs))) (unraised : Unraised before)
      (op : HorizonOp K Obs) (e : Exc) : HorizonEnd runner (before ++ [⟨op, .error e⟩]) (.error e)

theorem executions_append (xs ys : List (Call (horizonEffects K Obs))) :
    executions (xs ++ ys) = executions xs ++ executions ys := List.filterMap_append

theorem Unraised.snoc {calls : List (Call (horizonEffects K Obs))} (unraised : Unraised calls)
    {o : HorizonOp K Obs} (answer : o.Answer) :
    Unraised (calls ++ [(⟨o, .ok answer⟩ : Call (horizonEffects K Obs))]) := by
  intro c member
  rcases List.mem_append.mp member with earlier | now
  · exact unraised c earlier
  · rw [List.mem_singleton.mp now]
    exact ⟨answer, rfl⟩

theorem Continuing.unraised {calls : List (Call (horizonEffects K Obs))}
    (continuing : Continuing calls) : Unraised calls := by
  intro c member
  obtain ⟨answer, same, _⟩ := continuing c member
  exact ⟨answer, same⟩

theorem Continuing.snoc {calls : List (Call (horizonEffects K Obs))}
    (continuing : Continuing calls) (op : HorizonOp K Obs) {answer : op.Answer}
    (goes : op.GoesOn answer) :
    Continuing (calls ++ [(⟨op, .ok answer⟩ : Call (horizonEffects K Obs))]) := by
  intro c member
  rcases List.mem_append.mp member with earlier | now
  · exact continuing c earlier
  · rw [List.mem_singleton.mp now]
    exact ⟨answer, rfl, goes⟩

section Protocol

variable (runner : RecedingHorizonRunner)

/-- Asking after calls that have not raised, where an answer goes on and an exception ends
the loop. -/
theorem wp_asks {α : Type} {op : HorizonOp K Obs} {f : op.Answer → HorizonM K Obs α}
    {post : Except Exc α → Unit → List (Call (horizonEffects K Obs)) → Prop}
    {before : List (Call (horizonEffects K Obs))} (may : MayAsk runner before op)
    (rest : ∀ answer, wp (Monitor.remembering (MayAsk runner)) (f answer) post ()
      (before ++ [⟨op, .ok answer⟩]))
    (raised : ∀ e, post (.error e) () (before ++ [⟨op, .error e⟩])) :
    wp (Monitor.remembering (MayAsk runner)) (do let answer ← consult op; f answer) post ()
      before := by
  rw [wp_bind, wp_request]
  refine ⟨may, ?_⟩
  intro answer _
  cases answer with
  | ok a => exact rest a
  | error e => exact raised e

/-- What a cycle adds to the count: at most one chunk, and one if the loop goes on. -/
def Counts (steps added : Nat) (out : Except Exc (Nat × Bool)) : Prop :=
  ∀ n goOn, out = .ok (n, goOn) → n ≤ steps + added ∧ (goOn = true → n = steps + added)

structure Cycled (steps : Nat) (out : Except Exc (Nat × Bool)) (_ : Unit)
    (after : List (Call (horizonEffects K Obs))) : Prop where
  ends : HorizonEnd runner after out
  counts : Counts steps 1 out
  continues : ∀ n, out = .ok (n, true) → Continuing after

theorem cycled_raised {calls : List (Call (horizonEffects K Obs))} (unraised : Unraised calls)
    (steps : Nat) (op : HorizonOp K Obs) (e : Exc) :
    Cycled runner steps (.error e) () (calls ++ [⟨op, .error e⟩]) where
  ends := .raised calls unraised op e
  counts _ _ impossible := by cases impossible
  continues _ impossible := by cases impossible

theorem cycled_resting {calls : List (Call (horizonEffects K Obs))} (unraised : Unraised calls)
    {steps : Nat} (same : (executions calls).length = steps) :
    Cycled runner steps (.ok (steps, false)) () calls where
  ends := same ▸ .counted calls unraised false
  counts n goOn ended := by
    cases ended
    exact ⟨Nat.le_succ _, fun impossible => by cases impossible⟩
  continues _ impossible := by cases impossible

theorem cycled_stepped {calls : List (Call (horizonEffects K Obs))} (unraised : Unraised calls)
    {steps : Nat} (more : (executions calls).length = steps + 1) (goOn : Bool)
    (continues : goOn = true → Continuing calls) :
    Cycled runner steps (.ok (steps + 1, goOn)) () calls where
  ends := more ▸ .counted calls unraised goOn
  counts n goOn' ended := by
    cases ended
    exact ⟨le_rfl, fun _ => rfl⟩
  continues n ended := by
    cases ended
    exact continues rfl

theorem executions_planning (obs : Obs) (chunk : CartesianChunk K) :
    executions (planCalls obs chunk) = [] := rfl

theorem executions_approval (step : Nat) (chunk : CartesianChunk K) :
    executions (approvalCalls runner step chunk : List (Call (horizonEffects K Obs))) = [] := by
  unfold approvalCalls
  split <;> rfl

theorem execution_asks {before : List (Call (horizonEffects K Obs))} (obs : Obs)
    (chunk : CartesianChunk K) (may : runner.mayStep (executions before).length = true)
    (continuing : Continuing (before ++ (planCalls obs chunk ++
      approvalCalls runner ((executions before).length + 1) chunk))) :
    wp (Monitor.remembering (MayAsk runner)) (do
        let result ← consult (.executeCartesianChunk chunk)
        let verdict ← if runner.watched then
          consult (.onStep ((executions before).length + 1) chunk result) else pure none
        pure ((executions before).length + 1, decide (verdict ≠ some false)))
      (Cycled runner (executions before).length) ()
      (before ++ (planCalls obs chunk ++
        approvalCalls runner ((executions before).length + 1) chunk)) := by
  apply wp_asks runner (.executeCartesianChunk before obs chunk may) ?_
    (cycled_raised runner continuing.unraised _ _)
  intro result
  have goes : (HorizonOp.executeCartesianChunk chunk : HorizonOp K Obs).GoesOn result := trivial
  have executed := continuing.snoc _ goes
  have none : executions (before ++ (planCalls obs chunk ++
      approvalCalls runner ((executions before).length + 1) chunk)) = executions before := by
    rw [executions_append, executions_append, executions_planning, executions_approval,
      List.append_nil, List.append_nil]
  have counted : (executions ((before ++ (planCalls obs chunk ++
      approvalCalls runner ((executions before).length + 1) chunk)) ++
        [⟨.executeCartesianChunk chunk, .ok result⟩])).length =
      (executions before).length + 1 := by
    rw [executions_append, none]
    exact List.length_append
  split
  · rename_i watched
    have asking := MayAsk.onStep (before ++ (planCalls obs chunk ++
      approvalCalls runner ((executions before).length + 1) chunk)) chunk result watched
    rw [none] at asking
    apply wp_asks runner asking ?_ (cycled_raised runner executed.unraised _ _)
    intro verdict
    apply cycled_stepped runner (executed.unraised.snoc verdict)
    · rw [executions_append]
      exact (congrArg List.length (List.append_nil _)).trans counted
    · intro further
      apply executed.snoc
      have kept : verdict ≠ some false := of_decide_eq_true further
      exact kept
  · exact cycled_stepped runner executed.unraised counted _ fun _ => executed

theorem cycle_asks {before : List (Call (horizonEffects K Obs))} (continuing : Continuing before)
    (may : runner.mayStep (executions before).length = true) :
    wp (Monitor.remembering (MayAsk runner)) (runner.cycle (executions before).length)
      (Cycled runner (executions before).length) () before := by
  unfold RecedingHorizonRunner.cycle
  apply wp_asks runner (.observe before continuing may) ?_
    (cycled_raised runner continuing.unraised _ _)
  intro obs
  have goes : (HorizonOp.observe : HorizonOp K Obs).GoesOn obs := trivial
  have observed := continuing.snoc _ goes
  apply wp_asks runner (.policy before obs) ?_ (cycled_raised runner observed.unraised _ _)
  intro plan
  cases plan with
  | none =>
      apply cycled_resting runner (observed.unraised.snoc (o := .policy obs) none)
      rw [executions_append, executions_append]
      exact congrArg List.length ((List.append_nil _).trans (List.append_nil _))
  | some chunk =>
      have joined : before ++ [⟨.observe, .ok obs⟩] ++ [⟨.policy obs, .ok (some chunk)⟩] =
          before ++ planCalls obs chunk := List.append_assoc _ _ _
      have planned := observed.snoc (.policy obs) (Option.some_ne_none chunk)
      rw [joined] at planned ⊢
      have executes := execution_asks runner obs chunk may
      unfold approvalCalls at executes
      dsimp only
      split
      · rename_i gated
        rw [if_pos gated, ← List.append_assoc] at executes
        apply wp_asks runner (.onPropose before obs chunk gated) ?_
          (cycled_raised runner planned.unraised _ _)
        intro approved
        cases approved with
        | true =>
            exact executes (planned.snoc (.onPropose ((executions before).length + 1) chunk) rfl)
        | false =>
            apply cycled_resting runner (planned.unraised.snoc
              (o := .onPropose ((executions before).length + 1) chunk) false)
            rw [executions_append, executions_append, executions_planning]
            exact congrArg List.length ((List.append_nil _).trans (List.append_nil _))
      · rename_i ungated
        rw [if_neg ungated, List.append_nil] at executes
        exact executes planned

/-- How the loop ends: within the limit, and still running only when every cycle has been
gone through. -/
def Receded (steps cycles : Nat) (out : Except Exc (Nat × Bool)) (_ : Unit)
    (after : List (Call (horizonEffects K Obs))) : Prop :=
  HorizonEnd runner after out ∧ ∀ n goOn, out = .ok (n, goOn) →
    (goOn = true → n = steps + cycles) ∧
      ∀ maxSteps, runner.maxSteps = some maxSteps → (n : Int) ≤ max maxSteps steps

theorem run_asks (cycles : Nat) :
    ∀ {before : List (Call (horizonEffects K Obs))}, Continuing before →
      wp (Monitor.remembering (MayAsk runner)) (runner.run cycles (executions before).length)
        (Receded runner (executions before).length cycles) () before := by
  induction cycles with
  | zero =>
      intro before continuing
      refine ⟨.counted before continuing.unraised true, ?_⟩
      intro n goOn ended
      cases ended
      exact ⟨fun _ => rfl, fun _ _ => le_max_right _ _⟩
  | succ cycles ih =>
      intro before continuing
      unfold RecedingHorizonRunner.run
      split
      · rename_i may
        rw [wp_bind]
        apply wp_mono (cycle_asks runner continuing may)
        intro out _ after cycled
        obtain ⟨ends, counts, continues⟩ := cycled
        cases ends with
        | raised before' unraised' op e =>
            exact ⟨.raised before' unraised' op e, fun _ _ impossible => by cases impossible⟩
        | counted _ unraised' goOn =>
            obtain ⟨most, going⟩ := counts _ goOn rfl
            have below (maxSteps : Int) (limit : runner.maxSteps = some maxSteps) :
                ((executions before).length : Int) < maxSteps := by
              unfold RecedingHorizonRunner.mayStep at may
              rw [limit] at may
              exact of_decide_eq_true may
            rw [afterStep_ok]
            cases goOn with
            | false =>
                refine ⟨.counted after unraised' false, ?_⟩
                intro n goOn' ended
                cases ended
                refine ⟨fun impossible => (by cases impossible), ?_⟩
                intro maxSteps limit
                have := below maxSteps limit
                omega
            | true =>
                have stepped := going rfl
                apply wp_mono (ih (continues _ rfl))
                intro out _ last receded
                refine ⟨receded.1, ?_⟩
                intro n goOn' ended
                obtain ⟨running, bounded⟩ := receded.2 n goOn' ended
                constructor
                · intro on
                  have := running on
                  omega
                · intro maxSteps limit
                  have := below maxSteps limit
                  have := bounded maxSteps limit
                  omega
      · refine ⟨.counted before continuing.unraised false, ?_⟩
        intro n goOn ended
        cases ended
        exact ⟨fun impossible => (by cases impossible), fun _ _ => le_max_right _ _⟩

/-- Whatever the policy, the gate, the hook and the robot answer: nothing is executed but what
the policy has just planned for what has just been observed and the gate has let through,
no new cycle begins once one of them has ended the loop, and it returns how many chunks were
executed, never more than it was allowed. -/
theorem receding_protocol (cycles : Nat) {calls : List (Call (horizonEffects K Obs))}
    {left : Program (horizonEffects K Obs) (Except Exc (Nat × Bool) × Unit)}
    (ran : Trace (runner.run cycles 0 ()) calls left) :
    (∀ before c after, calls = before ++ c :: after → MayAsk runner before c.op) ∧
      ∀ out, left = .done (out, ()) → HorizonEnd runner calls out ∧
        ∀ n goOn, out = .ok (n, goOn) → (goOn = true → n = cycles) ∧
          ∀ maxSteps, runner.maxSteps = some maxSteps → n ≤ maxSteps.toNat := by
  have kept := @run_asks K Obs _ runner cycles [] fun c none => absurd none List.not_mem_nil
  obtain ⟨allowed, rest⟩ := Program.wp_sound kept ran
    ((Monitor.remembering (MayAsk runner)).admitted_of_forall (fun _ _ => trivial) _ _)
  rw [Monitor.run_remembering, List.nil_append] at rest
  constructor
  · rintro before c after rfl
    have asked := Monitor.Allowed.at_call allowed
    rw [Monitor.run_remembering, List.nil_append] at asked
    exact asked
  · rintro out rfl
    obtain ⟨ends, bounds⟩ : Receded runner 0 cycles out () calls := rest
    refine ⟨ends, ?_⟩
    intro n goOn same
    obtain ⟨running, bounded⟩ := bounds n goOn same
    constructor
    · intro on
      have := running on
      omega
    · intro maxSteps limit
      have := bounded maxSteps limit
      omega

end Protocol

end Runner

def cautiousRunner : RecedingHorizonRunner where
  maxSteps := some 2
  gated := true

noncomputable def raisedOnce : List (Call (horizonEffects ℝ Unit)) :=
  [⟨.observe, .ok ()⟩, ⟨.policy (), .ok (some raiseChunk)⟩, ⟨.onPropose 1 raiseChunk, .ok true⟩,
    ⟨.executeCartesianChunk raiseChunk, .ok {}⟩, ⟨.observe, .ok ()⟩, ⟨.policy (), .ok none⟩]

theorem receding_protocol_raise :
    Trace ((cautiousRunner.run 3 0 : HorizonM ℝ Unit (Nat × Bool)) ()) raisedOnce
        (.done (.ok (1, false), ())) ∧
      MayAsk cautiousRunner (raisedOnce.take 3) (.executeCartesianChunk raiseChunk) := by
  have ran : Trace ((cautiousRunner.run 3 0 : HorizonM ℝ Unit (Nat × Bool)) ()) raisedOnce
      (.done (.ok (1, false), ())) := .cons (.cons (.cons (.cons (.cons (.cons (.nil _))))))
  have asked := (receding_protocol cautiousRunner 3 ran).1 (raisedOnce.take 3)
    ⟨.executeCartesianChunk raiseChunk, .ok {}⟩ (raisedOnce.drop 4) rfl
  exact ⟨ran, asked⟩

end FlexivControl
