/-
What is decoded is what was encoded.

Each record is read back from the fields its encoder wrote: no field is lost, and no
default takes the place of a value. A Cartesian waypoint is read back by its constructor,
which leaves an orientation that is a unit already as it is.
-/

import FlexivControl.Wire.ProfileCodec

namespace FlexivControl

section Shapes

variable {K : Type} (lang : Language K)

@[simp] theorem member_controlMode (m : ControlMode) :
    member lang "ControlMode" ControlMode.members ControlMode.value (.str m.value) = .ok m := by
  apply member_value
  cases m <;> decide

@[simp] theorem member_safetyStatus (s : SafetyStatus) :
    member lang "SafetyStatus" SafetyStatus.members SafetyStatus.value (.str s.value) = .ok s := by
  apply member_value
  cases s <;> decide

@[simp] theorem member_stopReason (r : StopReason) :
    member lang "StopReason" StopReason.members StopReason.value (.str r.value) = .ok r := by
  apply member_value
  cases r <;> decide

@[simp] theorem member_representation (r : ChunkRepresentation) :
    member lang "ChunkRepresentation" ChunkRepresentation.members ChunkRepresentation.value
      (.str r.value) = .ok r := by
  apply member_value
  cases r <;> decide

theorem mapM_round_trip {α : Type} {encode : α → Json K} {decode : Json K → Except Exc α}
    (xs : List α) (back : ∀ x ∈ xs, decode (encode x) = .ok x) :
    (xs.map encode).mapM decode = .ok xs := by
  induction xs with
  | nil => rfl
  | cons x rest ih =>
      have later := ih fun y member => back y (List.mem_cons_of_mem x member)
      rw [List.map_cons, List.mapM_cons, back x List.mem_cons_self, later]
      rfl

theorem reshape_again {α : Type} {entries : α → List K} {reshape : NdArray K → Except Exc α}
    (back : ∀ a, reshape (NdArray.vector (entries a)) = .ok a) (o : Option α) :
    (o.map fun a => NdArray.vector (entries a)).mapM reshape = .ok o := by
  cases o with
  | none => rfl
  | some a =>
      rw [Option.map_some, Option.mapM_some, back]
      rfl

theorem reshape3_vecList (v : Vec3 K) : reshape3 (NdArray.vector (vecList v)) = .ok v := by
  rw [reshape3, NdArray.flat_vector]
  rfl

theorem reshape4_quatList (q : Quat K) : reshape4 (NdArray.vector (quatList q)) = .ok q := by
  rw [reshape4, NdArray.flat_vector]
  rfl

theorem reshape6_wrenchList (w : Wrench K) :
    reshape6 (NdArray.vector (wrenchList w)) = .ok w := by
  rw [reshape6, NdArray.flat_vector, wrenchList, sixOf_finRange]

end Shapes

section Parts

variable {K : Type} [Scalar K] (lang : Language K)

@[simp] theorem floatSix_wrenchList (w : Wrench K) :
    floatSix lang (floats (wrenchList w)) = .ok w := by
  rw [floatSix, floatVector_floats, except_bind_ok, wrenchList, sixFrom_finRange]

@[simp] theorem boolSix_flags (axes : Fin cartDof → Bool) :
    boolSix lang (flags ((List.finRange cartDof).map axes)) = .ok axes := by
  rw [boolSix, boolVector_flags, except_bind_ok, sixFrom_finRange]

@[simp] theorem floatPose_poseList (pose : Pose K) :
    floatPose lang (floats (poseList pose)) = .ok pose := by
  rw [floatPose, floatVector_floats, except_bind_ok]
  rfl

@[simp] theorem gripper_round_trip (g : Option (GripperCommand K)) :
    gripperFromDict lang (gripperToDict g) = .ok g := by
  cases g with
  | none => rfl
  | some g => simp [gripperFromDict, gripperToDict]

theorem state_round_trip (s : RobotState K) : stateFromDict lang (stateToDict s) = .ok s := by
  simp [stateFromDict, stateToDict]

theorem optional_state (s : Option (RobotState K)) :
    optional (stateFromDict lang) (encodeOptional stateToDict s) = .ok s := by
  apply optional_encode
  · intro s impossible
    cases impossible
  · exact state_round_trip lang

theorem result_round_trip (r : WireResult K) : resultFromDict lang (resultToDict r) = .ok r := by
  simp [resultFromDict, resultToDict, optional_state]

@[simp] theorem impedance_round_trip (imp : ImpedanceParams K) :
    impedanceFromDict lang (impedanceToDict imp) = .ok imp := by
  simp [impedanceFromDict, impedanceToDict, Json.truthy]

@[simp] theorem forceControl_round_trip (fc : Option (ForceControlParams K)) :
    forceControlFromDict lang (encodeOptional forceControlToDict fc) = .ok fc := by
  cases fc with
  | none => rfl
  | some fc => simp [forceControlFromDict, forceControlToDict, encodeOptional, Json.truthy]

theorem optional_floats {α : Type} (entries : α → List K) (o : Option α) :
    optional (floatArray lang) (encodeOptional (fun a => floats (entries a)) o) =
      .ok (o.map fun a => NdArray.vector (entries a)) := by
  cases o with
  | none => rfl
  | some a =>
      have read : optional (floatArray lang) (floats (entries a)) =
          (floatArray lang (floats (entries a))).map some := rfl
      rw [encodeOptional, read, floatArray_floats]
      rfl

theorem jointWaypoint_round_trip (w : JointWaypoint K) :
    jointWaypointFromDict lang (jointWaypointToDict w) = .ok w := by
  have timed := w.timed
  simp [jointWaypointFromDict, jointWaypointToDict, timed]

theorem jointChunk_round_trip (c : JointChunk K) :
    jointChunkFromDict lang (jointChunkToDict c) = .ok c := by
  have waypoints : (c.waypoints.map jointWaypointToDict).mapM (jointWaypointFromDict lang) =
      .ok c.waypoints :=
    mapM_round_trip c.waypoints fun w _ => jointWaypoint_round_trip lang w
  have nonempty := c.nonempty
  simp [jointChunkFromDict, jointChunkToDict, iterate, waypoints, nonempty]
  rfl

end Parts

/-- What the constructor makes of some arguments. -/
def CartesianWaypoint.Constructed (w : CartesianWaypoint ℝ) : Prop :=
  ∃ position quaternion gripper nFrames duration frame,
    CartesianWaypoint.create position quaternion gripper nFrames duration frame = .ok w

/-- A chunk of constructed waypoints; the rest of what its constructor asks for it carries. -/
def CartesianChunk.Constructed (c : CartesianChunk ℝ) : Prop :=
  ∀ w ∈ c.waypoints, w.Constructed

def unitQuaternion {K : Type} [Scalar K] (quaternion : Option (Quat K)) :
    Except Exc (Option (Quat K)) :=
  match quaternion with
  | none => .ok none
  | some q =>
      if q.norm < eps then .error ⟨.valueError, "zero-norm quaternion"⟩
      else .ok (some (q / q.norm))

theorem unitQuaternion_unit {quaternion unit : Option (Quat ℝ)}
    (ran : unitQuaternion quaternion = .ok unit) : ∀ q ∈ unit, q.norm = 1 := by
  cases quaternion with
  | none =>
      cases ran
      intro q given
      cases given
  | some raw =>
      unfold unitQuaternion at ran
      dsimp only at ran
      split at ran
      · cases ran
      · rename_i long
        cases ran
        intro q given
        cases given
        exact Quat.norm_div (lt_of_lt_of_le eps_pos (not_lt.mp long))

theorem unitQuaternion_again {quaternion : Option (Quat ℝ)}
    (unit : ∀ q ∈ quaternion, q.norm = 1) : unitQuaternion quaternion = .ok quaternion := by
  cases quaternion with
  | none => rfl
  | some q =>
      have same : q / (1 : ℝ) = q := by
        apply Quat.ext
        · exact div_one _
        · exact div_one _
        · exact div_one _
        · exact div_one _
      unfold unitQuaternion
      dsimp only
      rw [unit q rfl, if_neg (by rw [eps_real]; norm_num), same]

theorem create_eq (position : Vec3 ℝ) (quaternion : Option (Quat ℝ))
    (gripper : Option (GripperCommand ℝ)) (nFrames : Option Int) (duration : Option ℝ)
    (frame : String) :
    CartesianWaypoint.create position quaternion gripper nFrames duration frame =
      (unitQuaternion quaternion >>= fun quaternion =>
        if timed : nFrames.isSome ∨ duration.isSome then
          if framesPositive : ∀ n ∈ nFrames, 0 < n then
            pure { position, quaternion, gripper, nFrames, duration, frame, timed,
                   framesPositive }
          else throw ⟨.valueError, "n_frames must be positive"⟩
        else throw ⟨.valueError, "CartesianWaypoint needs either n_frames or duration"⟩) := by
  cases quaternion with
  | none => rfl
  | some q =>
      unfold CartesianWaypoint.create unitQuaternion
      dsimp only
      split
      · rfl
      · rfl

theorem CartesianWaypoint.Constructed.unit {w : CartesianWaypoint ℝ} (made : w.Constructed) :
    ∀ q ∈ w.quaternion, q.norm = 1 := by
  obtain ⟨position, quaternion, gripper, nFrames, duration, frame, ran⟩ := made
  rw [create_eq] at ran
  cases normal : unitQuaternion quaternion with
  | error e =>
      rw [normal] at ran
      cases ran
  | ok unit =>
      rw [normal, except_bind_ok] at ran
      split at ran
      · split at ran
        · cases ran
          exact unitQuaternion_unit normal
        · cases ran
      · cases ran

theorem CartesianWaypoint.create_again {w : CartesianWaypoint ℝ}
    (unit : ∀ q ∈ w.quaternion, q.norm = 1) :
    CartesianWaypoint.create w.position w.quaternion w.gripper w.nFrames w.duration w.frame =
      .ok w := by
  have framesPositive : ∀ n ∈ w.nFrames, 0 < n := w.framesPositive
  rw [create_eq, unitQuaternion_again unit, except_bind_ok, dif_pos w.timed,
    dif_pos framesPositive]
  rfl

section Decoding

variable (lang : Language ℝ)

theorem waypoint_round_trip {w : CartesianWaypoint ℝ} (made : w.Constructed) :
    waypointFromDict lang (waypointToDict w) = .ok w := by
  simp [waypointFromDict, waypointToDict, reshape3_vecList, optional_floats,
    reshape_again reshape4_quatList]
  exact CartesianWaypoint.create_again made.unit

theorem chunk_round_trip {c : CartesianChunk ℝ} (made : c.Constructed) :
    chunkFromDict lang (chunkToDict c) = .ok c := by
  have waypoints : (c.waypoints.map waypointToDict).mapM (waypointFromDict lang) =
      .ok c.waypoints :=
    mapM_round_trip c.waypoints fun w member => waypoint_round_trip lang (made w member)
  have nonempty := c.nonempty
  have allowanceNonneg : ∀ a, c.contactWrenchAllowance = some a → ∀ axis, 0 ≤ a axis := by
    intro a given axis
    exact not_lt.mp (c.allowanceNonneg a given axis)
  have gatePositive : ∀ g, c.gripTrackingGateM = some g → 0 < g := by
    intro g given
    exact not_le.mp (c.gatePositive g given)
  simp [chunkFromDict, chunkToDict, iterate, waypoints, nonempty, optional_floats,
    reshape_again reshape6_wrenchList]
  rw [dif_pos allowanceNonneg, dif_pos gatePositive]
  rfl

end Decoding

/-- Whatever is sent arrives: of every record that crosses the wire, and of every profile a
configuration gives, no field changes. -/
theorem wire_round_trip (lang : Language ℝ) :
    (∀ g : GripperCommand ℝ, gripperFromDict lang (gripperToDict (some g)) = .ok (some g)) ∧
      (∀ s : RobotState ℝ, stateFromDict lang (stateToDict s) = .ok s) ∧
      (∀ r : WireResult ℝ, resultFromDict lang (resultToDict r) = .ok r) ∧
      (∀ c : CartesianChunk ℝ, c.Constructed → chunkFromDict lang (chunkToDict c) = .ok c) ∧
      (∀ c : JointChunk ℝ, jointChunkFromDict lang (jointChunkToDict c) = .ok c) ∧
      ∀ d p, profileFromDict lang d = .ok p → profileFromDict lang p.toConfigDict = .ok p := by
  refine ⟨?_, state_round_trip lang, result_round_trip lang, ?_, jointChunk_round_trip lang, ?_⟩
  · intro g
    exact gripper_round_trip lang (some g)
  · intro c made
    exact chunk_round_trip lang made
  · intro d p _
    exact profile_round_trip lang p

noncomputable def plainLanguage : Language ℝ where
  parseFloat := fun _ => none
  parseInt := fun _ => none
  parseFlag := fun _ => none
  notANumber := 0
  print := fun _ => ""
  repr := fun _ => ""
  lower := fun text => String.ofList (text.toList.map Char.toLower)
  lower_clip := by decide
  lower_reject := by decide

theorem turned_timed : (some 10 : Option Int).isSome ∨ (none : Option ℝ).isSome := Or.inl rfl

theorem turned_positive : ∀ n, (some 10 : Option Int) = some n → 0 < n := by
  intro n given
  cases given
  decide

noncomputable def turnedWaypoint : CartesianWaypoint ℝ where
  position := 0
  quaternion := some ⟨0, 0, 0, 1⟩
  gripper := none
  nFrames := some 10
  duration := none
  frame := "base"
  timed := turned_timed
  framesPositive := turned_positive

theorem turned_nonempty : [turnedWaypoint] ≠ [] := List.cons_ne_nil turnedWaypoint []

noncomputable def turnedChunk : CartesianChunk ℝ where
  waypoints := [turnedWaypoint]
  nonempty := turned_nonempty
  allowanceNonneg := no_allowance
  gatePositive := no_gate

theorem turnedChunk_constructed : turnedChunk.Constructed := by
  intro w member
  rw [List.mem_singleton.mp member]
  have unit : ∀ q ∈ turnedWaypoint.quaternion, q.norm = 1 := by
    intro q given
    cases given
    rw [Quat.norm, Quat.dot]
    norm_num
  exact ⟨0, some ⟨0, 0, 0, 1⟩, none, some 10, none, "base",
    CartesianWaypoint.create_again unit⟩

theorem wire_round_trip_turned : turnedChunk.Constructed ∧
    chunkFromDict plainLanguage (chunkToDict turnedChunk) = .ok turnedChunk :=
  ⟨turnedChunk_constructed,
    (wire_round_trip plainLanguage).2.2.2.1 turnedChunk turnedChunk_constructed⟩

end FlexivControl
