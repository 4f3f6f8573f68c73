/-
Contact on the streaming paths: both blocking executors and the loop.

The executors compare the measured wrench with the cap before the filter is called.
The loop leaves the comparison to the Cartesian filter, so a pass that holds position
or follows a joint target makes none.
-/

import FlexivControl.Loop.Anchoring
import FlexivControl.Robot.ContactGuard

namespace FlexivControl

section Passes

variable {K : Type} [Scalar K]

/-- The measured wrench exceeds the cap in force when the pass decides what to write. -/
def Tick.Heavy (t : Tick K) : Prop :=
  ∀ snap loop, t.atWrite = some (snap, loop) →
    exceeds snap.state.wrench loop.filter.p.maxContactWrench = true

/-- The pass neither holds position nor follows a joint target. -/
def Tick.ContactGated (t : Tick K) : Prop :=
  ∀ snap loop, t.atWrite = some (snap, loop) → snap.holds loop.filter = false ∧
    (snap.follows loop.filter = true → snap.cartesian = true ∨ snap.targetQ = none)

theorem Tick.streams_nothing {t : Tick K} (heavy : t.Heavy) (gated : t.ContactGated) :
    t.streamed = none := by
  rcases t.result_spec with ⟨nothing, _⟩ | ⟨snap, loop, at_write, wrote⟩
  · exact nothing
  · obtain ⟨moving, notJoint⟩ := gated snap loop at_write
    generalize t.streamed = streamed at wrote
    generalize t.result.loop.filter = left at wrote
    cases wrote with
    | quiet _ => rfl
    | heldCartesian holds _ =>
        rw [holds] at moving
        cases moving
    | heldJoint holds _ =>
        rw [holds] at moving
        cases moving
    | @liveCartesian target _ _ _ _ _ _ passed ok _ =>
        have refused : loop.filter.filterCartesian target snap.state = _ :=
          SafetyFilter.filterCartesian_of_heavy (heavy snap loop at_write)
        rw [refused, Prod.mk.injEq] at passed
        rw [← passed.1] at ok
        cases ok
    | liveJoint follows space published _ _ _ =>
        rcases notJoint follows with cartesian | nothing
        · rw [space] at cartesian
          cases cartesian
        · rw [published] at nothing
          cases nothing

/-- The executors stream under the cap in force in every run. The loop does in every
run whose heavy passes neither hold position nor follow a joint target. -/
theorem streaming_contact_guarded (loop : ReactiveServoLoop K) (inputs : List (TickInput K))
    (gated : ∀ t ∈ loop.runInner inputs, t.Heavy → t.ContactGated) :
    (∀ (robot : Robot K) (chunk : CartesianChunk K) (raiseOnStop record : Bool) calls q,
      Trace (executeCartesianChunk chunk raiseOnStop record robot) calls q →
      ContactGuarded (effectiveWrenchCap robot.profile chunk) calls) ∧
    (∀ (robot : Robot K) (chunk : JointChunk K) (raiseOnStop : Bool) calls q,
      Trace (executeJointChunk chunk raiseOnStop robot) calls q →
      ContactGuarded robot.profile.maxContactWrench calls) ∧
    ∀ t ∈ loop.runInner inputs, t.Heavy → t.streamed = none := by
  constructor
  · intro robot chunk raiseOnStop record calls q ran
    exact executeCartesianChunk_guarded robot chunk raiseOnStop record ran
  · constructor
    · intro robot chunk raiseOnStop calls q ran
      exact executeJointChunk_guarded robot chunk raiseOnStop ran
    · intro t inside heavy
      exact t.streams_nothing heavy (gated t inside heavy)

end Passes

noncomputable def pressed : RobotState ℝ := { zeroed with wrench := fun _ => 50 }

theorem pressed_heavy : exceeds pressed.wrench tabletop.maxContactWrench = true := by
  rw [exceeds_real]
  refine ⟨0, ?_⟩
  norm_num [pressed, tabletop]

/-- The one pass of a session that finds the arm pressed and `target` published. -/
noncomputable def pressing (target : Publication ℝ) : Tick ℝ :=
  ⟨servoSession {} tabletop 100 100 zeroed zeroed 0 0, .publishing pressed target⟩

theorem pressing_run (target : Publication ℝ) :
    (servoSession {} tabletop 100 100 zeroed zeroed 0 0).runInner [.publishing pressed target] =
      [pressing target] := rfl

theorem pressing_profile (target : Publication ℝ) : (pressing target).before.filter.p = tabletop :=
  (servoSession_uses {} tabletop (r := 100) (by norm_num) 100 zeroed zeroed 0 0 rfl).1

noncomputable def poseTarget : Publication ℝ := .cartesianTarget [1 / 2, 0, 3 / 10, 1, 0, 0, 0] none 0

theorem pressing_pose_heavy : (pressing poseTarget).Heavy := by
  intro snap loop at_write
  cases at_write
  exact pressed_heavy

theorem streaming_contact_guarded_pose : (pressing poseTarget).streamed = none := by
  apply (streaming_contact_guarded (servoSession {} tabletop 100 100 zeroed zeroed 0 0)
    [.publishing pressed poseTarget] ?_).2.2 _ (pressing_run poseTarget ▸ List.mem_singleton_self _)
    pressing_pose_heavy
  intro t inside _ snap loop at_write
  rw [pressing_run] at inside
  rw [List.mem_singleton.mp inside] at at_write
  cases at_write
  refine ⟨Snapshot.holds_of_follows ?_, fun _ => Or.inl rfl⟩
  exact follows_of_fresh (pressing_profile poseTarget) rfl (sub_self 0)

theorem pressed_joints_stream :
    ∃ t ∈ (servoSession {} tabletop 100 100 zeroed zeroed 0 0).runInner
        [.publishing pressed (.jointTarget (uniform 1) 0)],
      t.Heavy ∧ t.streamed ≠ none := by
  rw [pressing_run]
  refine ⟨_, List.mem_singleton_self _, ?_, ?_⟩
  · intro snap loop at_write
    cases at_write
    exact pressed_heavy
  · obtain ⟨streamed, _⟩ := Tick.live_uniform (servoSession {} tabletop 100 100 zeroed zeroed 0 0)
      pressed (a := 0) (t := 1) (pressing_profile (.jointTarget (uniform 1) 0)) rfl (by norm_num)
      le_rfl
    rw [pressing, streamed]
    exact Option.some_ne_none _

end FlexivControl
