/-
What the facade's primitives require of a monitor, and what they leave it in.
-/

import FlexivControl.Robot.Footprint

namespace FlexivControl

open Script

variable {K : Type} [Scalar K] {σ : Type} {m : Monitor (effects K) σ}

@[simp] theorem wp_op (op : Op K) (post : Except Exc (Op.Resp op) → Robot K → σ → Prop)
    (robot : Robot K) (s : σ) :
    wp m (perform op) post robot s ↔
      m.allows s op ∧ ∀ r, m.admits s ⟨op, r⟩ → post (.ok r) robot (m.observe s ⟨op, r⟩) :=
  Iff.rfl

@[simp] theorem wp_attempt {α : Type} (result : Except Exc α)
    (post : Except Exc α → Robot K → σ → Prop) (robot : Robot K) (s : σ) :
    wp m (attempt result) post robot s ↔ post result robot s := by
  cases result <;> exact Iff.rfl

@[simp] theorem wp_backend (call : BackendCall K) (post : Except Exc Unit → Robot K → σ → Prop)
    (robot : Robot K) (s : σ) :
    wp m (backend call) post robot s ↔
      m.allows s (.write call) ∧
        ∀ r, m.admits s ⟨.write call, r⟩ → post r robot (m.observe s ⟨.write call, r⟩) := by
  unfold backend
  rw [wp_bind, wp_op]
  simp only [afterStep_ok, wp_attempt]

@[simp] theorem wp_readState (post : Except Exc (RobotState K) → Robot K → σ → Prop)
    (robot : Robot K) (s : σ) :
    wp m readState post robot s ↔
      m.allows s .readState ∧
        ∀ r, m.admits s ⟨.readState, r⟩ → post r robot (m.observe s ⟨.readState, r⟩) := by
  unfold readState
  rw [wp_bind, wp_op]
  simp only [afterStep_ok, wp_attempt]

@[simp] theorem wp_inFault (post : Except Exc Bool → Robot K → σ → Prop) (robot : Robot K) (s : σ) :
    wp m inFault post robot s ↔
      m.allows s .inFault ∧
        ∀ r, m.admits s ⟨.inFault, r⟩ → post r robot (m.observe s ⟨.inFault, r⟩) := by
  unfold inFault
  rw [wp_bind, wp_op]
  simp only [afterStep_ok, wp_attempt]

@[simp] theorem wp_filterCartesian (pose : Pose K) (state : RobotState K)
    (cap : Option (Wrench K)) (post : Except Exc (SafetyResult K) → Robot K → σ → Prop)
    (robot : Robot K) (s : σ) :
    wp m (filterCartesian pose state cap) post robot s ↔
      post (.ok (robot.filter.filterCartesian pose state cap).1)
        { robot with filter := (robot.filter.filterCartesian pose state cap).2 } s := Iff.rfl

theorem wp_filterJoint_of {q : List K} {state : RobotState K} {robot : Robot K}
    {sr : SafetyResult K} {filter : SafetyFilter K}
    (passed : robot.filter.filterJoint q state = .ok (sr, filter))
    {post : Except Exc (SafetyResult K) → Robot K → σ → Prop} {s : σ}
    (rest : post (.ok sr) { robot with filter := filter } s) :
    wp m (filterJoint q state) post robot s := by
  unfold filterJoint
  rw [wp_bind, wp_get, afterStep_ok, wp_bind, passed, wp_attempt, afterStep_ok]
  exact rest

@[simp] theorem wp_resetFilter (state : RobotState K)
    (post : Except Exc PUnit → Robot K → σ → Prop) (robot : Robot K) (s : σ) :
    wp m (resetFilter state) post robot s ↔
      post (.ok ⟨⟩) { robot with filter := robot.filter.reset (some state) } s := Iff.rfl

end FlexivControl
