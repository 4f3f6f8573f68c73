/-
What the methods of the backend leave as it is, mode starts and the limit setter aside.

They send no contact limit and, where they change the mode, leave the Cartesian ones.
-/

import FlexivControl.Backend.ModeStart
import FlexivControl.Library.Footprint

namespace FlexivControl

open Rdk Script

variable {K : Type} [Scalar K]

def RdkCommand.limits : RdkCommand K → Bool
  | .setMaxContactWrench _ => true
  | _ => false

/-- Told by nothing but the contact limits sent, and by whether the mode is Cartesian. -/
structure Unmoved (inv : FlexivRdkBackend K → RdkSide K → Prop) : Prop where
  took : ∀ backend side c, c.limits = false → inv backend side → inv backend (side.take c)
  refused : ∀ backend side c, inv backend side → inv backend (side.refuse c)
  moded : ∀ backend side mode, mode.isCartesian = false → inv backend side →
    inv { backend with mode := mode } side

section Methods

variable {inv : FlexivRdkBackend K → RdkSide K → Prop} (unmoved : Unmoved inv)

theorem keeps_answer {α : Type} (result : Except Exc α) :
    Keeps rdkWatch inv (answer result : RdkM K α) := by
  cases result with
  | ok a => exact keeps_pure a
  | error e => exact keeps_throw e

theorem keeps_ask {op : RdkOp K} (query : ∀ c, op ≠ .command c) :
    Keeps rdkWatch inv (ask op : RdkM K (RdkOp.Resp op)) := by
  apply keeps_perform
  · intro _ _ _
    trivial
  · intro backend side answered holds _
    cases op with
    | command c => exact absurd rfl (query c)
    | _ => exact holds

include unmoved

theorem keeps_command {c : RdkCommand K} (unlimiting : c.limits = false) :
    Keeps rdkWatch inv (command c) := by
  intro backend side holds
  rw [wp_command]
  exact ⟨unmoved.took backend side c unlimiting holds,
    fun _ => unmoved.refused backend side c holds⟩

theorem keeps_mode {mode : ControlMode} (other : mode.isCartesian = false) :
    Keeps rdkWatch inv (modify fun backend => { backend with mode := mode } : RdkM K Unit) :=
  keeps_modify fun backend side holds => unmoved.moded backend side mode other holds

omit unmoved

theorem keeps_primitiveRunning :
    Keeps rdkWatch inv (FlexivRdkBackend.primitiveRunning : RdkM K Bool) := by
  have busy {f : Except Exc Bool → RdkM K Bool} (known : ∀ busy, Keeps rdkWatch inv (f (.ok busy)))
      (raised : ∀ e, Keeps rdkWatch inv (f (.error e))) :
      Keeps rdkWatch inv (Rdk.ask .busy >>= f) := by
    refine Keeps.bind (keeps_ask (by rintro _ ⟨⟩)) fun answered => ?_
    cases answered with
    | ok busy => exact known busy
    | error e => exact raised e
  refine Keeps.bind (keeps_ask (by rintro _ ⟨⟩)) fun reached => ?_
  cases reached with
  | error e => exact busy (fun busy => keeps_pure busy) (fun _ => keeps_pure false)
  | ok reached =>
      cases reached with
      | none => exact busy (fun busy => keeps_pure busy) (fun _ => keeps_pure false)
      | some reached => exact keeps_pure _

theorem keeps_awaitPrimitive (t0 : K) (rounds : Nat) :
    Keeps rdkWatch inv (FlexivRdkBackend.awaitPrimitive t0 rounds) := by
  induction rounds with
  | zero => exact keeps_pure ()
  | succ rounds ih =>
      refine Keeps.bind (keeps_ask (by rintro _ ⟨⟩)) fun now => keeps_ite ?_ (keeps_pure ())
      exact keeps_primitiveRunning.bind fun running => keeps_ite ih (keeps_pure ())

theorem keeps_awaitIdle (t0 : K) (rounds : Nat) :
    Keeps rdkWatch inv (FlexivRdkBackend.awaitIdle t0 rounds) := by
  induction rounds with
  | zero => exact keeps_pure ()
  | succ rounds ih =>
      refine Keeps.bind (keeps_ask (by rintro _ ⟨⟩)) fun answered => ?_
      refine (keeps_answer _).bind fun busy => keeps_ite ?_ (keeps_pure ())
      exact Keeps.bind (keeps_ask (by rintro _ ⟨⟩)) fun now => keeps_ite ih (keeps_pure ())

theorem keeps_rdkInFault : Keeps rdkWatch inv (FlexivRdkBackend.inFault : RdkM K Bool) := by
  refine Keeps.bind (keeps_ask (by rintro _ ⟨⟩)) fun answered => ?_
  cases answered with
  | ok fault => exact keeps_pure fault
  | error _ => exact keeps_pure false

theorem keeps_snapshot : Keeps rdkWatch inv (FlexivRdkBackend.snapshot : RdkM K (RobotState K)) := by
  refine Keeps.bind (keeps_ask (by rintro _ ⟨⟩)) fun answered => ?_
  refine (keeps_answer _).bind fun states => keeps_rdkInFault.bind fun faulted => ?_
  refine Keeps.bind (keeps_ask (by rintro _ ⟨⟩)) fun stamp => ?_
  exact keeps_get.bind fun _ => keeps_pure _

include unmoved

theorem keeps_rdkReadState :
    Keeps rdkWatch inv (FlexivRdkBackend.readState : RdkM K (RobotState K)) := by
  have synced (robotMode : Except Exc ControlMode) : Keeps rdkWatch inv
      (modify fun backend => { backend with mode := backend.syncedMode robotMode } :
        RdkM K Unit) := by
    apply keeps_modify
    intro backend side holds
    have idle : inv { backend with mode := .idle } side :=
      unmoved.moded backend side .idle rfl holds
    unfold FlexivRdkBackend.syncedMode
    split
    · exact idle
    · split
      · split
        · exact idle
        · exact holds
      · exact holds
  have asked : Keeps rdkWatch inv (do
      let robotMode ← ask .mode
      modify fun backend => { backend with mode := backend.syncedMode robotMode } :
        RdkM K Unit) :=
    Keeps.bind (keeps_ask (by rintro _ ⟨⟩)) synced
  unfold FlexivRdkBackend.readState
  refine keeps_get.bind fun backend => ?_
  dsimp only
  split
  · exact asked.bind fun _ => keeps_snapshot
  · exact keeps_snapshot

theorem keeps_rdkStop : Keeps rdkWatch inv (FlexivRdkBackend.stop : RdkM K Unit) :=
  (keeps_command unmoved rfl).bind fun _ => keeps_mode unmoved rfl

theorem keeps_rdkHome (qHome : Option (List K)) :
    Keeps rdkWatch inv (FlexivRdkBackend.home qHome) := by
  refine keeps_ite (keeps_throw _) ?_
  refine keeps_get.bind fun backend => (keeps_answer _).bind fun mode => ?_
  refine (keeps_command unmoved rfl).bind fun _ => (keeps_command unmoved rfl).bind fun _ => ?_
  refine Keeps.bind (keeps_ask (by rintro _ ⟨⟩)) fun t0 => ?_
  exact (keeps_awaitPrimitive t0 601).bind fun _ => keeps_mode unmoved rfl

theorem keeps_rdkZeroFtSensor :
    Keeps rdkWatch inv (FlexivRdkBackend.zeroFtSensor : RdkM K Unit) := by
  refine keeps_get.bind fun backend => keeps_ite ?_ (keeps_pure ())
  refine (keeps_command unmoved rfl).bind fun _ => (keeps_command unmoved rfl).bind fun _ => ?_
  refine Keeps.bind (keeps_ask (by rintro _ ⟨⟩)) fun t0 => (keeps_awaitIdle t0 51).bind fun _ => ?_
  exact (keeps_command unmoved rfl).bind fun _ => keeps_mode unmoved rfl

theorem keeps_rdkStreamCartesian (pose : Pose K) (wrench : Option (Wrench K)) :
    Keeps rdkWatch inv (FlexivRdkBackend.streamCartesian pose wrench) :=
  keeps_get.bind fun _ => keeps_ite (keeps_command unmoved rfl) (keeps_command unmoved rfl)

end Methods

end FlexivControl
