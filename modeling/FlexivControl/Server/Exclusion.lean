/-
The robot lock, and what the handlers do only under it.

A handler takes the lock only when it does not have it. It writes to the backend, enters a
chunk, swaps the profile and fills or empties the loop slot only while it has the lock. The
cancel flag is cleared under the lock too, but for the clear that greets a fresh owner.
-/

import FlexivControl.Library.Mutex
import FlexivControl.Robot.Rules
import FlexivControl.Server.Footprint
import FlexivControl.Server.Interleaving

namespace FlexivControl

open Pool Script

variable {K : Type} [Scalar K]

def Op.TakesLock : Op K → Prop
  | .lockAcquire | .lockTryAcquire => True
  | _ => False

/-- What needs the lock; `greets` is said of a thread that may clear the flag without it. -/
def Op.NeedsLock (greets : Prop) : Op K → Prop
  | .write _ | .setSafetyProfile _ | .loopTake | .loopInstall _ | .lockRelease _
  | .cancelIsSet .entry => True
  | .cancelClear => ¬ greets
  | _ => False

def takesLock : Call (effects K) → Bool
  | ⟨.lockAcquire, _⟩ => true
  | ⟨.lockTryAcquire, robot⟩ => robot.isSome
  | _ => false

def freesLock : Call (effects K) → Bool
  | ⟨.lockRelease _, _⟩ => true
  | _ => false

def robotLock (greets : Prop) : Lock (effects K) where
  mayTake := Op.TakesLock
  needs := Op.NeedsLock greets
  takes := takesLock
  frees := freesLock
  taken := by
    intro c takes
    obtain ⟨op, answer⟩ := c
    cases op with
    | lockAcquire => trivial
    | lockTryAcquire => trivial
    | _ => cases takes
  freed := by
    intro c frees
    obtain ⟨op, answer⟩ := c
    cases op with
    | lockRelease robot => trivial
    | _ => cases frees

theorem robotLock_guards (greets : Prop) :
    (robotLock greets).Guards (server (K := K)) Holder.handler ServerState.lockHolder where
  distinct _ _ same := Holder.handler.inj same
  take := by
    intro s t c takes enabled
    obtain ⟨op, answer⟩ := c
    cases op with
    | lockAcquire => exact ⟨enabled.1, rfl⟩
    | lockTryAcquire =>
        change answer = if s.lockHolder = none then some s.robot else none at enabled
        cases answer with
        | none => cases takes
        | some robot =>
            by_cases open_lock : s.lockHolder = none
            · exact ⟨open_lock, rfl⟩
            · rw [if_neg open_lock] at enabled
              cases enabled
    | _ => cases takes
  free := by
    intro s t c _ frees
    obtain ⟨op, answer⟩ := c
    cases op with
    | lockRelease robot => rfl
    | _ => cases frees
  keep := by
    intro s t c takes frees
    obtain ⟨op, answer⟩ := c
    cases op with
    | lockAcquire => cases takes
    | lockTryAcquire =>
        cases answer with
        | none => rfl
        | some robot => cases takes
    | lockRelease robot => cases frees
    | _ => rfl
  env := by
    intro s move enabled t
    cases move with
    | loopLock =>
        have nobody : s.lockHolder = none := enabled
        rw [nobody]
        exact ⟨fun impossible => (by cases impossible), fun impossible => (by cases impossible)⟩
    | loopUnlock robot =>
        have loop : s.lockHolder = some .loop := enabled
        rw [loop]
        exact ⟨fun impossible => (by cases impossible), fun impossible => (by cases impossible)⟩
    | _ => exact Iff.rfl

section Discipline

variable {greets : Prop} {trusts : Call (effects K) → Prop} {α β : Type}

/-- What can be done without the lock and does not take it. -/
def Op.IsFree (greets : Prop) (op : Op K) : Prop := ¬ op.TakesLock ∧ ¬ op.NeedsLock greets

def Op.IsLock : Op K → Prop
  | .lockAcquire | .lockTryAcquire | .lockRelease _ => True
  | _ => False

def KeepsLock (greets : Prop) (trusts : Call (effects K) → Prop) (x : RobotM K α) : Prop :=
  ∀ robot, wp ((robotLock greets).discipline trusts) x (fun _ _ held => held = false) robot false

def GivesLock (greets : Prop) (trusts : Call (effects K) → Prop) (x : RobotM K α) : Prop :=
  ∀ robot, wp ((robotLock greets).discipline trusts) x (fun _ _ held => held = false) robot true

theorem KeepsLock.bind {x : RobotM K α} {f : α → RobotM K β} (first : KeepsLock greets trusts x)
    (rest : ∀ a, KeepsLock greets trusts (f a)) : KeepsLock greets trusts (x >>= f) := by
  intro robot
  rw [wp_bind]
  apply wp_mono (first robot)
  intro out robot' held unheld
  rw [unheld]
  cases out with
  | ok a => exact rest a robot'
  | error e => rfl

theorem GivesLock.bind {x : RobotM K α} {f : α → RobotM K β} (first : GivesLock greets trusts x)
    (rest : ∀ a, KeepsLock greets trusts (f a)) : GivesLock greets trusts (x >>= f) := by
  intro robot
  rw [wp_bind]
  apply wp_mono (first robot)
  intro out robot' held unheld
  rw [unheld]
  cases out with
  | ok a => exact rest a robot'
  | error e => rfl

theorem after_of_not_lock {op : Op K} (unlocked : ¬ op.IsLock) (held : Bool)
    (answer : (effects K).Resp op) : (robotLock greets).after held ⟨op, answer⟩ = held := by
  cases op with
  | lockAcquire => exact absurd trivial unlocked
  | lockTryAcquire => exact absurd trivial unlocked
  | lockRelease robot => exact absurd trivial unlocked
  | _ => rfl

theorem Op.IsFree.not_lock {op : Op K} (free : op.IsFree greets) : ¬ op.IsLock := by
  cases op with
  | lockAcquire => exact fun _ => free.1 trivial
  | lockTryAcquire => exact fun _ => free.1 trivial
  | lockRelease robot => exact fun _ => free.2 trivial
  | _ => exact id

theorem KeepsLock.of_uses {x : RobotM K α} (uses : Uses (S := effects K) (Op.IsFree greets) x) :
    KeepsLock greets trusts x := by
  intro robot
  have allowed : ∀ (held : Bool) (op : Op K), op.IsFree greets → held = false →
      ((robotLock greets).discipline trusts).allows held op :=
    fun held op free unheld => ⟨fun _ => unheld, fun needs => absurd needs free.2⟩
  have kept : ∀ (held : Bool) (op : Op K) (answer : (effects K).Resp op), op.IsFree greets →
      held = false → ((robotLock greets).discipline trusts).observe held ⟨op, answer⟩ = false :=
    fun held op answer free unheld => (after_of_not_lock free.not_lock held answer).trans unheld
  exact uses.wp allowed kept rfl

theorem KeepsLock.pure (a : α) : KeepsLock greets trusts (Pure.pure a : RobotM K α) := fun _ => rfl

theorem KeepsLock.throw (e : Exc) :
    KeepsLock greets trusts (MonadExcept.throw e : RobotM K α) := fun _ => rfl

theorem KeepsLock.attempt (result : Except Exc α) :
    KeepsLock greets trusts (FlexivControl.attempt result) := by
  intro robot
  rw [wp_attempt]

theorem KeepsLock.perform {op : Op K} (free : op.IsFree greets) :
    KeepsLock greets trusts (FlexivControl.perform op) := .of_uses (uses_op free)

/-- Under the lock anything but the lock itself may be done. -/
theorem locked_body {x : RobotM K α} (uses : Uses (S := effects K) (fun op => ¬ op.IsLock) x)
    (robot : Robot K) :
    wp ((robotLock greets).discipline trusts) x (fun _ _ held => held = true) robot true := by
  have allowed : ∀ (held : Bool) (op : Op K), ¬ op.IsLock → held = true →
      ((robotLock greets).discipline trusts).allows held op := by
    intro held op unlocked holds
    refine ⟨fun takes => ?_, fun _ => holds⟩
    cases op with
    | lockAcquire => exact absurd trivial unlocked
    | lockTryAcquire => exact absurd trivial unlocked
    | _ => exact absurd takes id
  have kept : ∀ (held : Bool) (op : Op K) (answer : (effects K).Resp op), ¬ op.IsLock →
      held = true → ((robotLock greets).discipline trusts).observe held ⟨op, answer⟩ = true :=
    fun held op answer unlocked holds => (after_of_not_lock unlocked held answer).trans holds
  exact uses.wp allowed kept rfl

theorem GivesLock.ensuring {x : RobotM K α}
    (uses : Uses (S := effects K) (fun op => ¬ op.IsLock) x) :
    GivesLock greets trusts (Script.ensuring x releaseRobotLock) := by
  intro robot
  rw [wp_ensuring]
  apply wp_mono (locked_body uses robot)
  intro out robot' held holds
  unfold releaseRobotLock
  rw [wp_bind, wp_get, afterStep_ok, wp_op, holds]
  refine ⟨⟨fun takes => absurd takes id, fun _ => rfl⟩, fun _ _ => ?_⟩
  rw [afterStep_ok]
  rfl

theorem keepsLock_withRobotLock {x : RobotM K α}
    (uses : Uses (S := effects K) (fun op => ¬ op.IsLock) x) :
    KeepsLock greets trusts (withRobotLock x) := by
  intro robot
  unfold withRobotLock
  rw [wp_bind, wp_op]
  refine ⟨⟨fun _ => rfl, fun needs => absurd needs id⟩, fun taken _ => ?_⟩
  rw [afterStep_ok, wp_bind, wp_set, afterStep_ok]
  exact GivesLock.ensuring uses taken

theorem KeepsLock.probe {f : Option (Robot K) → RobotM K α} (busy : KeepsLock greets trusts (f none))
    (taken : ∀ robot, GivesLock greets trusts (f (some robot))) :
    KeepsLock greets trusts (FlexivControl.perform .lockTryAcquire >>= f) := by
  intro robot
  rw [wp_bind, wp_op]
  refine ⟨⟨fun _ => rfl, fun needs => absurd needs id⟩, fun answer _ => ?_⟩
  rw [afterStep_ok]
  cases answer with
  | none => exact busy robot
  | some found => exact taken found robot

theorem GivesLock.loaded (loaded : Robot K) {x : RobotM K α} (gives : GivesLock greets trusts x) :
    GivesLock greets trusts (do set loaded; x) := by
  intro robot
  rw [wp_bind, wp_set, afterStep_ok]
  exact gives loaded

end Discipline

/-! ### Every handler -/

section Handlers

variable {greets : Prop} {trusts : Call (effects K) → Prop}

theorem Op.IsMotion.not_lock {op : Op K} (motion : op.IsMotion) : ¬ op.IsLock := by
  cases op with
  | lockAcquire => exact absurd motion id
  | lockTryAcquire => exact absurd motion id
  | lockRelease robot => exact absurd motion id
  | _ => exact id

theorem motion_not_lock {α : Type} {x : RobotM K α} (uses : Uses (S := effects K) Op.IsMotion x) :
    Uses (S := effects K) (fun op => ¬ op.IsLock) x :=
  uses.mono fun _ => Op.IsMotion.not_lock

theorem keepsLock_requireLease (owner : String) :
    KeepsLock greets trusts (requireLease owner : RobotM K Unit) :=
  (KeepsLock.perform ⟨id, id⟩).bind fun checked => (KeepsLock.attempt checked).bind fun _ =>
    (KeepsLock.perform ⟨id, id⟩).bind fun beat => (KeepsLock.attempt beat).bind fun _ =>
      .perform ⟨id, id⟩

theorem uses_holdLease {α : Type} (owner : String) {x : RobotM K α}
    (uses : Uses (S := effects K) (fun op => ¬ op.IsLock) x) :
    Uses (S := effects K) (fun op => ¬ op.IsLock) (holdLease owner x) := by
  unfold holdLease
  split
  · exact uses
  · exact Uses.bind (uses_op id) fun entered => (uses_attempt entered).bind fun _ =>
      Uses.ensuring uses (uses_op id)

theorem keepsLock_motionLock {α : Type} (owner : String) {x : RobotM K α}
    (uses : Uses (S := effects K) (fun op => ¬ op.IsLock) x) :
    KeepsLock greets trusts (motionLock owner x) := by
  apply keepsLock_withRobotLock
  refine Uses.bind (uses_op id) fun slot => ?_
  cases slot with
  | some loop => exact uses_throw _
  | none => exact uses_holdLease owner uses

theorem uses_stop : Uses (S := effects K) (fun op => ¬ op.IsLock) (stop : RobotM K Unit) :=
  Uses.bind (uses_op id) fun _ => uses_backend id

theorem keepsLock_stopTaken (taken : Option Nat) :
    KeepsLock greets trusts (stopTaken taken : RobotM K Unit) := by
  cases taken with
  | none => exact .pure ()
  | some loop =>
      exact (KeepsLock.perform ⟨id, id⟩).bind fun _ => keepsLock_withRobotLock (uses_backend id)

theorem keepsLock_takeLoop :
    KeepsLock greets trusts (withRobotLock takeLoop : RobotM K (Option Nat)) :=
  keepsLock_withRobotLock (uses_op id)

theorem keepsLock_requestStop : KeepsLock greets trusts (requestStop : RobotM K Unit) :=
  .perform ⟨id, id⟩

theorem keepsLock_stopRobot : KeepsLock greets trusts (stopRobot : RobotM K Unit) := by
  apply KeepsLock.probe
  · exact keepsLock_requestStop
  · intro robot
    exact (GivesLock.ensuring uses_stop).loaded robot

theorem keepsLock_hStop : KeepsLock greets trusts (hStop : RobotM K (Reply K)) := by
  apply keepsLock_requestStop.bind
  intro _
  apply KeepsLock.probe
  · exact keepsLock_requestStop.bind fun _ => .pure _
  · intro robot
    apply GivesLock.loaded robot
    apply (GivesLock.ensuring (uses_op id)).bind
    intro taken
    exact (keepsLock_stopTaken taken).bind fun _ => keepsLock_stopRobot.bind fun _ => .pure _

theorem uses_getState_unlocked :
    Uses (S := effects K) (fun op => ¬ op.IsLock) (getState : RobotM K (RobotState K)) :=
  motion_not_lock (quiet_motion uses_getState)

theorem keepsLock_loopState (loop : Nat) :
    KeepsLock greets trusts (loopState loop : RobotM K (RobotState K)) :=
  (KeepsLock.perform ⟨id, id⟩).bind fun state => .attempt state

theorem keepsLock_stateWithoutLock :
    KeepsLock greets trusts (stateWithoutLock : RobotM K (RobotState K)) := by
  apply (KeepsLock.perform ⟨id, id⟩).bind
  intro slot
  cases slot with
  | some loop => exact keepsLock_loopState loop
  | none =>
      apply (KeepsLock.perform ⟨id, id⟩).bind
      intro peeked
      cases peeked with
      | some s => exact .pure s
      | none => exact keepsLock_withRobotLock uses_getState_unlocked

theorem keepsLock_hGetState : KeepsLock greets trusts (hGetState : RobotM K (Reply K)) := by
  have stamped (s : RobotState K) : KeepsLock greets trusts (do
      let owner ← perform .leaseOwner
      pure (.state { s with activeOwner := owner }) : RobotM K (Reply K)) :=
    (KeepsLock.perform ⟨id, id⟩).bind fun _ => .pure _
  have looks : Uses (S := effects K) (fun op => ¬ op.IsLock)
      (stateUnderLock : RobotM K (Nat ⊕ RobotState K)) := by
    refine Uses.bind (uses_op id) fun slot => ?_
    cases slot with
    | some loop => exact uses_pure _
    | none => exact uses_getState_unlocked.bind fun _ => uses_pure _
  apply KeepsLock.probe
  · exact keepsLock_stateWithoutLock.bind stamped
  · intro robot
    apply GivesLock.loaded robot
    apply (GivesLock.ensuring looks).bind
    intro found
    cases found with
    | inl loop => exact (keepsLock_loopState loop).bind stamped
    | inr s => exact (KeepsLock.pure s).bind stamped

theorem keepsLock_runningLoop : KeepsLock greets trusts (runningLoop : RobotM K Nat) := by
  apply (keepsLock_withRobotLock (uses_op id)).bind
  intro slot
  cases slot with
  | none => exact .throw _
  | some loop =>
      apply (KeepsLock.perform ⟨id, id⟩).bind
      intro alive
      split
      · exact .pure loop
      · exact .throw _

theorem uses_installLoop (controlHz : Option K) :
    Uses (S := effects K) (fun op => ¬ op.IsLock) (installLoop controlHz) := by
  refine Uses.bind (uses_op id) fun slot => ?_
  cases slot with
  | some loop => exact uses_pure _
  | none =>
      apply Uses.bind
      · have reads : Uses (S := effects K) (fun op => ¬ op.IsLock)
            (readState : RobotM K (RobotState K)) :=
          motion_not_lock (quiet_motion uses_readState)
        refine reads.bind fun s => ?_
        dsimp only
        split
        · exact (uses_pure s).bind fun _ => uses_resetFilter _
        · exact (uses_get.bind fun _ => uses_backend id).bind fun _ => reads.bind fun _ =>
            uses_resetFilter _
      · exact fun _ => Uses.bind (uses_op id) fun _ => uses_pure _

theorem keepsLock_motion {α β : Type} (owner : String) {x : RobotM K α} (reply : α → β)
    (uses : Uses (S := effects K) (fun op => ¬ op.IsLock) x) :
    KeepsLock greets trusts (do
      let r ← motionLock owner x
      pure (reply r)) :=
  (keepsLock_motionLock owner uses).bind fun _ => .pure _

theorem handle_keepsLock (request : Request K) (covers : request.Greets → greets) :
    KeepsLock greets trusts (handle request) := by
  cases request with
  | ping => exact .pure _
  | acquireLease owner force =>
      have greeting : greets := covers trivial
      refine (KeepsLock.perform ⟨id, id⟩).bind fun prev => ?_
      refine (KeepsLock.perform ⟨id, id⟩).bind fun granted => ?_
      refine (KeepsLock.attempt granted).bind fun info => ?_
      refine KeepsLock.bind ?_ fun _ => .pure _
      unfold settleCancel
      split
      · exact keepsLock_requestStop
      · split
        · exact .perform ⟨id, fun ungreeted => ungreeted greeting⟩
        · exact .pure ()
  | releaseLease owner =>
      refine (KeepsLock.perform ⟨id, id⟩).bind fun released => ?_
      refine (KeepsLock.attempt released).bind fun _ => keepsLock_takeLoop.bind fun taken => ?_
      exact (keepsLock_stopTaken taken).bind fun _ =>
        (keepsLock_withRobotLock uses_stop).bind fun _ => .pure _
  | heartbeat owner =>
      exact (KeepsLock.perform ⟨id, id⟩).bind fun beat => (KeepsLock.attempt beat).bind fun _ =>
        .pure _
  | getLease => exact (KeepsLock.perform ⟨id, id⟩).bind fun _ => .pure _
  | setSafetyProfile owner name =>
      refine (keepsLock_requireLease owner).bind fun _ => KeepsLock.bind ?_ fun _ =>
        (KeepsLock.perform ⟨id, id⟩).bind fun _ => .pure _
      apply keepsLock_withRobotLock
      refine (uses_attempt name).bind fun name => Uses.bind (uses_op id) fun loaded => ?_
      exact (uses_attempt loaded).bind fun profile => (uses_modify _).bind fun _ => uses_op id
  | getSafetyProfile => exact (KeepsLock.perform ⟨id, id⟩).bind fun _ => .pure _
  | getState => exact keepsLock_hGetState
  | startCartesianImpedance owner params realtime =>
      refine (keepsLock_requireLease owner).bind fun _ => (KeepsLock.attempt params).bind fun p => ?_
      exact keepsLock_motion owner (fun _ => Reply.started) (uses_get.bind fun _ => uses_backend id)
  | startJointImpedance owner realtime =>
      refine (keepsLock_requireLease owner).bind fun _ => ?_
      exact keepsLock_motion owner (fun _ => Reply.started) (uses_backend id)
  | servoCartesianDelta owner params =>
      refine (keepsLock_requireLease owner).bind fun _ => ?_
      exact keepsLock_motion owner Reply.result ((uses_attempt params).bind fun p =>
        motion_not_lock (uses_servoCartesianDelta _ _ _ _ _))
  | servoCartesianPose owner params =>
      refine (keepsLock_requireLease owner).bind fun _ => ?_
      exact keepsLock_motion owner Reply.result ((uses_attempt params).bind fun p =>
        motion_not_lock (uses_servoCartesianPose _ _ _))
  | executeCartesianChunk owner chunk =>
      refine (keepsLock_requireLease owner).bind fun _ => (KeepsLock.attempt chunk).bind fun _ => ?_
      exact keepsLock_motion owner Reply.result
        (motion_not_lock (cartesian_motion (uses_executeCartesianChunk _ _ _)))
  | executeJointChunk owner chunk =>
      refine (keepsLock_requireLease owner).bind fun _ => (KeepsLock.attempt chunk).bind fun _ => ?_
      exact keepsLock_motion owner Reply.result (motion_not_lock (uses_executeJointChunk _ _))
  | moveJoint owner params =>
      refine (keepsLock_requireLease owner).bind fun _ => ?_
      exact keepsLock_motion owner Reply.result ((uses_attempt params).bind fun p =>
        motion_not_lock (uses_moveJoint _ _ _ _))
  | commandGripper owner cmd wait timeout =>
      refine (keepsLock_requireLease owner).bind fun _ => (KeepsLock.attempt cmd).bind fun _ => ?_
      exact keepsLock_motion owner Reply.finalWidth ((uses_attempt timeout).bind fun _ =>
        motion_not_lock (cartesian_motion (uses_commandGripper _ _ _)))
  | home owner q params =>
      refine (keepsLock_requireLease owner).bind fun _ => (KeepsLock.attempt q).bind fun _ => ?_
      exact keepsLock_motion owner (fun _ => Reply.ok) ((uses_attempt params).bind fun p =>
        motion_not_lock (uses_home _ _ _))
  | goHomeSafe owner q params =>
      refine (keepsLock_requireLease owner).bind fun _ => (KeepsLock.attempt q).bind fun _ => ?_
      exact keepsLock_motion owner Reply.result ((uses_attempt params).bind fun p =>
        motion_not_lock (uses_goHomeSafe _ _ _ _ _))
  | zeroFtSensor owner =>
      refine (keepsLock_requireLease owner).bind fun _ => ?_
      exact keepsLock_motion owner (fun _ => Reply.ok) (motion_not_lock uses_zeroFtSensor)
  | stop => exact keepsLock_hStop
  | startServoLoop owner controlHz =>
      exact (keepsLock_requireLease owner).bind fun _ =>
        (keepsLock_withRobotLock (uses_installLoop controlHz)).bind fun _ => .pure _
  | servoStream owner target =>
      refine (keepsLock_requireLease owner).bind fun _ => keepsLock_runningLoop.bind fun loop => ?_
      refine (KeepsLock.attempt target).bind fun target => ?_
      exact (KeepsLock.perform ⟨id, id⟩).bind fun answer => (KeepsLock.attempt answer).bind fun _ =>
        .pure _
  | servoStreamJoint owner q =>
      refine (keepsLock_requireLease owner).bind fun _ => keepsLock_runningLoop.bind fun loop => ?_
      refine (KeepsLock.attempt q).bind fun q => ?_
      exact (KeepsLock.perform ⟨id, id⟩).bind fun answer => (KeepsLock.attempt answer).bind fun _ =>
        .pure _
  | stopServoLoop owner =>
      exact (keepsLock_requireLease owner).bind fun _ => keepsLock_takeLoop.bind fun taken =>
        (keepsLock_stopTaken taken).bind fun _ => .pure _

end Handlers

end FlexivControl
