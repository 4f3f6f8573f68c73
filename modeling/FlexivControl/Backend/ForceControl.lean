/-
The wrench a stream commands, over whole runs of the backend.

Force control is remembered when a Cartesian mode start is given some, and forgotten only
by a start of another mode. What is asked for is the force control of the last mode start
that returned.
-/

import FlexivControl.Backend.Methods

namespace FlexivControl

open Rdk Script

variable {K : Type} [Scalar K]

inductive RdkMethod (K : Type) [Scalar K] where
  | setMode (mode : ControlMode) (params : ModeParams K)
  | streamCartesian (pose : Pose K) (wrench : Option (Wrench K))
  | stop
  | home (qHome : Option (List K))
  | zeroFtSensor

def RdkMethod.script : RdkMethod K → RdkM K Unit
  | .setMode mode params => FlexivRdkBackend.setMode mode params
  | .streamCartesian pose wrench => FlexivRdkBackend.streamCartesian pose wrench
  | .stop => FlexivRdkBackend.stop
  | .home qHome => FlexivRdkBackend.home qHome
  | .zeroFtSensor => FlexivRdkBackend.zeroFtSensor

/-- A call of a method, with what it called on the robot and how it ended. -/
structure RdkEvent (K : Type) [Scalar K] where
  method : RdkMethod K
  calls : List (Call (rdkEffects K))
  out : Except Exc Unit

inductive RdkRun (start : FlexivRdkBackend K) :
    List (RdkEvent K) → FlexivRdkBackend K → Prop where
  | start : RdkRun start [] start
  | call {events : List (RdkEvent K)} {backend backend' : FlexivRdkBackend K} {e : RdkEvent K}
      (run : RdkRun start events backend)
      (ran : Trace (e.method.script backend) e.calls (.done (e.out, backend'))) :
      RdkRun start (events ++ [e]) backend'

namespace RdkEvent

/-- The force control that this event puts into force, where it is a mode start that
returned. -/
def requests (e : RdkEvent K) : Option (Option (ForceControlParams K)) :=
  match e.method, e.out with
  | .setMode _ params, .ok _ => some params.forceControl
  | _, _ => none

def refused (e : RdkEvent K) : List (RdkCommand K) :=
  (rdkWatch.run { mode := .idle } e.calls).refused

end RdkEvent

def requestedForce (events : List (RdkEvent K)) : Option (ForceControlParams K) :=
  events.foldl (fun last e => e.requests.getD last) none

/-- The target wrench in force, zero without force control. -/
def targetOf (forceControl : Option (ForceControlParams K)) : Wrench K :=
  match forceControl with
  | some forceControl => forceControl.targetWrench
  | none => fun _ => 0

def sentWrench (c : Call (rdkEffects K)) : Option (Wrench K) :=
  match c with
  | ⟨.command (.streamCartesianMotionForce _ wrench), _⟩ => some wrench
  | ⟨.command (.sendCartesianMotionForce _ wrench), _⟩ => some wrench
  | _ => none

/-- Whatever stream is called at whatever point of the run, it sends its own wrench if it
has one, and otherwise the target of the last mode start that returned. -/
def WrenchesRequested (start : FlexivRdkBackend K) (events : List (RdkEvent K)) : Prop :=
  ∀ before after backend backend' pose wrench calls out, events = before ++ after →
    RdkRun start before backend →
    Trace (FlexivRdkBackend.streamCartesian pose wrench backend) calls (.done (out, backend')) →
    calls.map sentWrench = [some (wrench.getD (targetOf (requestedForce before)))]

/-- The calls that leave the memory of force control as it is asked for: a Cartesian start
without force control finds none in force, a start of another mode is given none, and a
start that fails after recording force control has recorded the same target. -/
def RdkEvent.Scoped (e : RdkEvent K) (backend : FlexivRdkBackend K) : Prop :=
  match e.method, e.out with
  | .setMode mode params, .ok _ =>
      if mode.isCartesian then
        params.forceControl = none → targetOf backend.forceControl = fun _ => 0
      else targetOf params.forceControl = fun _ => 0
  | .setMode _ params, .error _ =>
      (∃ c ∈ e.refused, c.pastForce = true) →
        targetOf (params.forceControl.or backend.forceControl) = targetOf backend.forceControl
  | _, _ => True

/-- Every call of the run is scoped in the state it was made in. -/
def ScopedRun (start : FlexivRdkBackend K) (events : List (RdkEvent K)) : Prop :=
  ∀ before e after here there, events = before ++ e :: after → RdkRun start before here →
    Trace (e.method.script here) e.calls (.done (e.out, there)) → e.Scoped here

namespace FlexivRdkBackend

/-- The script does not touch the remembered force control. -/
def KeepsForce {α : Type} (x : RdkM K α) : Prop :=
  ∀ backend side, wp rdkWatch x
    (fun _ backend' _ => backend'.forceControl = backend.forceControl) backend side

theorem force_unmoved (forceControl : Option (ForceControlParams K)) :
    Unmoved fun backend (_ : RdkSide K) => backend.forceControl = forceControl where
  took _ _ _ _ same := same
  refused _ _ _ same := same
  moded _ _ _ _ same := same

namespace KeepsForce

theorem of_keeps {α : Type} {x : RdkM K α}
    (kept : ∀ forceControl : Option (ForceControlParams K),
      Keeps rdkWatch (fun backend _ => backend.forceControl = forceControl) x) : KeepsForce x :=
  fun backend side => kept backend.forceControl backend side rfl

theorem stop : KeepsForce (FlexivRdkBackend.stop : RdkM K Unit) :=
  of_keeps fun _ => keeps_rdkStop (force_unmoved _)

theorem home (qHome : Option (List K)) : KeepsForce (FlexivRdkBackend.home qHome) :=
  of_keeps fun _ => keeps_rdkHome (force_unmoved _) qHome

theorem zeroFtSensor : KeepsForce (FlexivRdkBackend.zeroFtSensor : RdkM K Unit) :=
  of_keeps fun _ => keeps_rdkZeroFtSensor (force_unmoved _)

theorem streamCartesian (pose : Pose K) (wrench : Option (Wrench K)) :
    KeepsForce (FlexivRdkBackend.streamCartesian pose wrench) :=
  of_keeps fun _ => keeps_rdkStreamCartesian (force_unmoved _) pose wrench

end KeepsForce

end FlexivRdkBackend

/-! ### Runs -/

theorem requestedForce_snoc (events : List (RdkEvent K)) (e : RdkEvent K) :
    requestedForce (events ++ [e]) = e.requests.getD (requestedForce events) := by
  rw [requestedForce, List.foldl_append]
  rfl

theorem streamed_wrench {pose : Pose K} {wrench : Option (Wrench K)}
    {backend backend' : FlexivRdkBackend K} {calls : List (Call (rdkEffects K))}
    {out : Except Exc Unit}
    (ran : Trace (FlexivRdkBackend.streamCartesian pose wrench backend) calls
      (.done (out, backend'))) :
    calls.map sentWrench = [some (wrench.getD (targetOf backend.forceControl))] := by
  have commanded : backend.commandedWrench wrench =
      wrench.getD (targetOf backend.forceControl) := by
    cases wrench with
    | some wrench => rfl
    | none =>
        unfold FlexivRdkBackend.commandedWrench targetOf
        cases backend.forceControl <;> rfl
  have history : Program.wp (Monitor.history (rdkEffects K))
      (FlexivRdkBackend.streamCartesian pose wrench backend)
      (fun _ calls => calls.map sentWrench = [some (backend.commandedWrench wrench)]) [] := by
    change wp (Monitor.history (rdkEffects K)) (FlexivRdkBackend.streamCartesian pose wrench)
      (fun _ _ calls => calls.map sentWrench = [some (backend.commandedWrench wrench)])
      backend []
    unfold FlexivRdkBackend.streamCartesian
    rw [wp_bind, wp_get, afterStep_ok]
    by_cases realtime : backend.mode.isRealtime = true
    · rw [if_pos realtime, command, wp_bind, ask, wp_perform]
      refine ⟨trivial, fun result _ => ?_⟩
      rw [afterStep_ok, wp_answer]
      rfl
    · rw [if_neg realtime, command, wp_bind, ask, wp_perform]
      refine ⟨trivial, fun result _ => ?_⟩
      rw [afterStep_ok, wp_answer]
      rfl
  rw [← commanded]
  exact Monitor.history_sound history ran

def silence : (op : RdkOp K) → RdkOp.Resp op
  | .command _ => .ok ()
  | .mode => .ok .idle
  | .states => .error ⟨.runtimeError, ""⟩
  | .fault => .ok false
  | .busy => .ok false
  | .primitiveReached => .ok none
  | .time => 0

section Step

variable {before : List (RdkEvent K)} {e : RdkEvent K} {backend backend' : FlexivRdkBackend K}

/-- A method other than a mode start changes neither what is remembered nor what is asked
for. -/
theorem kept_of_keepsForce {x : RdkM K Unit} (keeps : FlexivRdkBackend.KeepsForce x)
    {calls : List (Call (rdkEffects K))} {out : Except Exc Unit}
    (ran : Trace (x backend) calls (.done (out, backend'))) :
    backend'.forceControl = backend.forceControl :=
  (Program.wp_sound (keeps backend { mode := .idle }) ran
    (rdkWatch.admitted_of_forall (fun _ _ => trivial) _ calls)).2

theorem setMode_ended {mode : ControlMode} {params : ModeParams K}
    {calls : List (Call (rdkEffects K))} {out : Except Exc Unit}
    (ran : Trace (FlexivRdkBackend.setMode mode params backend) calls (.done (out, backend'))) :
    FlexivRdkBackend.ModeStart mode params backend { mode := .idle } out backend'
      (rdkWatch.run { mode := .idle } calls) :=
  (Program.wp_sound (FlexivRdkBackend.setMode_spec mode params backend { mode := .idle }) ran
    (rdkWatch.admitted_of_forall (fun _ _ => trivial) _ calls)).2

theorem setMode_step_iff {mode : ControlMode} {params : ModeParams K}
    {calls : List (Call (rdkEffects K))} {out : Except Exc Unit}
    (here : targetOf backend.forceControl = targetOf (requestedForce before))
    (ended : FlexivRdkBackend.ModeStart mode params backend { mode := .idle } out backend'
      (rdkWatch.run { mode := .idle } calls)) :
    targetOf backend'.forceControl =
        targetOf ((RdkEvent.requests ⟨.setMode mode params, calls, out⟩).getD
          (requestedForce before)) ↔
      RdkEvent.Scoped ⟨.setMode mode params, calls, out⟩ backend := by
  generalize reached : rdkWatch.run { mode := .idle } calls = side at ended
  have refused_eq (out : Except Exc Unit) :
      RdkEvent.refused ⟨.setMode mode params, calls, out⟩ = side.refused :=
    congrArg RdkSide.refused reached
  cases ended with
  | barred e =>
      refine iff_of_true here ?_
      intro recorded
      obtain ⟨c, refused, _⟩ := recorded
      rw [refused_eq] at refused
      cases refused
  | unswitched e =>
      refine iff_of_true here ?_
      intro recorded
      obtain ⟨c, refused, past⟩ := recorded
      rw [refused_eq] at refused
      have switch : c = .switchMode mode := List.mem_singleton.mp refused
      rw [switch] at past
      cases past
  | @halfway e done rest c split =>
      have only_c : RdkEvent.refused ⟨.setMode mode params, calls, .error e⟩ = [c] := by
        rw [refused_eq, RdkSide.refuse, RdkSide.takeAll_refused]
        rfl
      have scoped_iff : RdkEvent.Scoped ⟨.setMode mode params, calls, .error e⟩ backend ↔
          (c.pastForce = true → targetOf (params.forceControl.or backend.forceControl) =
            targetOf backend.forceControl) := by
        unfold RdkEvent.Scoped
        dsimp only
        rw [only_c]
        simp only [List.mem_singleton, exists_eq_left]
      rw [scoped_iff]
      change targetOf (params.forceAt backend.forceControl c) = targetOf (requestedForce before) ↔ _
      rw [← here, ModeParams.forceAt]
      cases c.pastForce with
      | true =>
          rw [if_pos rfl]
          exact ⟨fun same _ => same, fun kept => kept rfl⟩
      | false =>
          rw [if_neg Bool.false_ne_true]
          exact iff_of_true rfl fun impossible => Bool.noConfusion impossible
  | started =>
      change targetOf (params.forceAfter mode backend.forceControl) =
        targetOf params.forceControl ↔ _
      unfold RdkEvent.Scoped ModeParams.forceAfter
      dsimp only
      cases mode.isCartesian with
      | true =>
          rw [if_pos rfl, if_pos rfl]
          cases params.forceControl with
          | none =>
              rw [Option.none_or]
              exact ⟨fun same _ => same, fun unforced => unforced rfl⟩
          | some forceControl => exact iff_of_true rfl fun impossible => by cases impossible
      | false =>
          rw [if_neg Bool.false_ne_true, if_neg Bool.false_ne_true]
          exact eq_comm

theorem RdkEvent.step_iff
    (here : targetOf backend.forceControl = targetOf (requestedForce before))
    (ran : Trace (e.method.script backend) e.calls (.done (e.out, backend'))) :
    targetOf backend'.forceControl = targetOf (requestedForce (before ++ [e])) ↔
      e.Scoped backend := by
  obtain ⟨method, calls, out⟩ := e
  rw [requestedForce_snoc]
  cases method with
  | streamCartesian pose wrench =>
      rw [kept_of_keepsForce (.streamCartesian pose wrench) ran]
      exact iff_of_true here trivial
  | stop =>
      rw [kept_of_keepsForce .stop ran]
      exact iff_of_true here trivial
  | home qHome =>
      rw [kept_of_keepsForce (.home qHome) ran]
      exact iff_of_true here trivial
  | zeroFtSensor =>
      rw [kept_of_keepsForce .zeroFtSensor ran]
      exact iff_of_true here trivial
  | setMode mode params =>
      exact setMode_step_iff here (setMode_ended ran)

end Step

/-- What is remembered is what is asked for, in the sense of the wrench it stands for. -/
theorem RdkRun.matches {start backend : FlexivRdkBackend K} {events : List (RdkEvent K)}
    (fresh : start.forceControl = none) (run : RdkRun start events backend)
    (kept : ScopedRun start events) :
    targetOf backend.forceControl = targetOf (requestedForce events) := by
  induction run with
  | start => rw [fresh]; rfl
  | @call events here there e run ran ih =>
      have before : ScopedRun start events := by
        intro before x after here there split
        exact kept before x (after ++ [e]) here there (by rw [split, List.append_assoc]; rfl)
      exact (RdkEvent.step_iff (ih before) ran).mpr (kept events e [] here there rfl run ran)

theorem stream_called (pose : Pose K) (wrench : Option (Wrench K))
    (backend : FlexivRdkBackend K) :
    ∃ calls out backend', Trace (FlexivRdkBackend.streamCartesian pose wrench backend) calls
      (.done (out, backend')) := by
  obtain ⟨calls, ended, ran⟩ := Program.exists_finished (fun op => ⟨silence op⟩)
    (FlexivRdkBackend.streamCartesian pose wrench backend)
  exact ⟨calls, ended.1, ended.2, ran⟩

/-- In a run of a new backend each stream sends what has been asked for, at whatever point
it is called, if and only if every mode start of the run is scoped. -/
theorem wrenches_requested_iff {start : FlexivRdkBackend K} (fresh : start.forceControl = none)
    {events : List (RdkEvent K)} : WrenchesRequested start events ↔ ScopedRun start events := by
  constructor
  · intro requested before e after here there split run ran
    have target (pre post : List (RdkEvent K)) (reached : FlexivRdkBackend K)
        (split : events = pre ++ post) (run : RdkRun start pre reached) :
        targetOf reached.forceControl = targetOf (requestedForce pre) := by
      obtain ⟨calls, out, backend', streamed⟩ := stream_called Pose.identity none reached
      have sent := streamed_wrench streamed
      rw [requested pre post reached backend' _ none calls out split run streamed] at sent
      exact (Option.some.inj (List.cons.inj sent).1).symm
    have ahead : events = (before ++ [e]) ++ after := by
      rw [split, List.append_assoc, List.singleton_append]
    exact (RdkEvent.step_iff (target before (e :: after) here split run) ran).mp
      (target (before ++ [e]) after there ahead (run.call ran))
  · intro kept before after backend backend' pose wrench calls out split run streamed
    have earlier : ScopedRun start before := by
      intro pre e post here there split'
      exact kept pre e (post ++ after) here there
        (by rw [split, split', List.append_assoc, List.cons_append])
    rw [streamed_wrench streamed, run.matches fresh earlier]

noncomputable def push : ForceControlParams ℝ where
  targetWrench := fun axis => if axis.val = 2 then 5 else 0

noncomputable def startPushing : RdkEvent ℝ where
  method := .setMode .nrtCartesianMotionForce { forceControl := some push }
  calls := [⟨.command (.switchMode .nrtCartesianMotionForce), .ok ()⟩,
    ⟨.command (.setForceControlAxis push.enabledAxes), .ok ()⟩,
    ⟨.command (.setForceControlFrame (rdkCoord push.frame)), .ok ()⟩]
  out := .ok ()

noncomputable def stopped : RdkEvent ℝ where
  method := .stop
  calls := [⟨.command .stop, .ok ()⟩]
  out := .ok ()

noncomputable def startPlain : RdkEvent ℝ where
  method := .setMode .nrtCartesianMotionForce {}
  calls := [⟨.command (.switchMode .nrtCartesianMotionForce), .ok ()⟩]
  out := .ok ()

theorem RdkRun.of_nil {start backend : FlexivRdkBackend K} (run : RdkRun start [] backend) :
    backend = start := by
  generalize none : ([] : List (RdkEvent K)) = events at run
  cases run with
  | start => rfl
  | call _ _ =>
      exact absurd none.symm (List.append_ne_nil_of_right_ne_nil _ (List.cons_ne_nil _ _))

/-- A Cartesian start that asks for nothing, a stop and one that asks to push. -/
theorem wrenches_requested_iff_pushing :
    (∃ backend, RdkRun ({} : FlexivRdkBackend ℝ) [startPlain, stopped, startPushing] backend) ∧
      requestedForce [startPlain, stopped, startPushing] = some push ∧
      WrenchesRequested ({} : FlexivRdkBackend ℝ) [startPlain, stopped, startPushing] := by
  have first : RdkRun ({} : FlexivRdkBackend ℝ) ([] ++ [startPlain])
      { mode := .nrtCartesianMotionForce } := .call .start (.cons (.nil _))
  have second : RdkRun ({} : FlexivRdkBackend ℝ) ([startPlain] ++ [stopped]) { mode := .idle } :=
    .call first (.cons (.nil _))
  have third : RdkRun ({} : FlexivRdkBackend ℝ) ([startPlain, stopped] ++ [startPushing])
      { mode := .nrtCartesianMotionForce, forceControl := some push } :=
    .call second (.cons (.cons (.cons (.nil _))))
  refine ⟨⟨_, third⟩, rfl, (wrenches_requested_iff rfl).mpr ?_⟩
  intro before e after here there split reached _
  rcases before with _ | ⟨_, _ | ⟨_, _ | ⟨_, rest⟩⟩⟩
  · cases split
    intro _
    rw [reached.of_nil]
    rfl
  · cases split
    trivial
  · cases split
    intro impossible
    cases impossible
  · cases rest <;> cases split

/-- The second Cartesian start is given no force control, and the stream pushes. -/
theorem plain_start_pushes :
    ∃ backend backend' : FlexivRdkBackend ℝ,
      RdkRun {} [startPushing, stopped, startPlain] backend ∧
      requestedForce [startPushing, stopped, startPlain] = none ∧
      Trace (FlexivRdkBackend.streamCartesian Pose.identity none backend)
        [⟨.command (.sendCartesianMotionForce Pose.identity push.targetWrench), .ok ()⟩]
        (.done (.ok (), backend')) ∧
      push.targetWrench ≠ fun _ => 0 := by
  have first : RdkRun ({} : FlexivRdkBackend ℝ) ([] ++ [startPushing])
      { mode := .nrtCartesianMotionForce, forceControl := some push } :=
    .call .start (.cons (.cons (.cons (.nil _))))
  have second : RdkRun ({} : FlexivRdkBackend ℝ) ([startPushing] ++ [stopped])
      { mode := .idle, forceControl := some push } := .call first (.cons (.nil _))
  have third : RdkRun ({} : FlexivRdkBackend ℝ) ([startPushing, stopped] ++ [startPlain])
      { mode := .nrtCartesianMotionForce, forceControl := some push } :=
    .call second (.cons (.nil _))
  refine ⟨_, _, third, rfl, .cons (.nil _), ?_⟩
  intro zero
  have along_z := congrFun zero 2
  norm_num [push] at along_z

end FlexivControl
