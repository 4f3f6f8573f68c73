/-
The firmware behind the facade: the vendor's backend, and the last contact limit its robot
has taken.

A Cartesian mode start sends the limit of its parameters, the limit setter sends one in a
Cartesian mode, and nothing is sent when the profile is changed.
-/

import FlexivControl.Backend.ForceControl
import FlexivControl.Library.Environment
import FlexivControl.Robot.Footprint

namespace FlexivControl

open Rdk Script

variable {K : Type} [Scalar K]

/-- The backend, the last limit the robot has taken, and the profile in force. -/
structure Firmware (K : Type) [Scalar K] where
  backend : FlexivRdkBackend K
  limit : Option (Wrench K)
  profile : SafetyProfile K

def lastLimit (limit : Option (Wrench K)) (sent : List (RdkCommand K)) : Option (Wrench K) :=
  sent.foldl (fun last c => match c with
    | .setMaxContactWrench wrench => some wrench
    | _ => last) limit

/-- The backend's method for a call; what hands over joints or moves the gripper touches
neither the mode nor the limit. -/
def BackendCall.script : BackendCall K → Option (RdkM K Unit)
  | .setMode mode params => some (FlexivRdkBackend.setMode mode params)
  | .streamCartesian pose wrench => some (FlexivRdkBackend.streamCartesian pose wrench)
  | .stop => some FlexivRdkBackend.stop
  | .setContactWrenchLimit wrench => some (FlexivRdkBackend.setContactWrenchLimit wrench)
  | .home qHome => some (FlexivRdkBackend.home (some qHome))
  | .zeroFtSensor => some FlexivRdkBackend.zeroFtSensor
  | .streamJoint _ => none
  | .moveGripper _ => none

namespace Firmware

def Runs {α : Type} (f : Firmware K) (x : RdkM K α) (out : Except Exc α)
    (calls : List (Call (rdkEffects K))) (f' : Firmware K) : Prop :=
  ∃ backend, Trace (x f.backend) calls (.done (out, backend)) ∧
    f' = { f with
      backend := backend
      limit := lastLimit f.limit (rdkWatch.run { mode := .idle } calls).sent }

def Step (f : Firmware K) (c : Call (effects K)) (calls : List (Call (rdkEffects K)))
    (f' : Firmware K) : Prop :=
  match c with
  | ⟨.readState, answer⟩ => f.Runs FlexivRdkBackend.readState answer calls f'
  | ⟨.write call, answer⟩ =>
      match call.script with
      | some script => f.Runs script answer calls f'
      | none => calls = [] ∧ f' = f
  | ⟨.setSafetyProfile profile, _⟩ => calls = [] ∧ f' = { f with profile := profile }
  | _ => calls = [] ∧ f' = f

/-- In a Cartesian mode the limit is the profile's. -/
def Armed (f : Firmware K) : Prop :=
  f.backend.mode.isCartesian = true → f.limit = some f.profile.maxContactWrench

def arms : RdkCommand K → Bool
  | .setCartesianImpedance _ _ | .setMaxContactWrench _ => true
  | _ => false

/-- The steps that let the limit follow: in a Cartesian mode no profile comes with another
limit, and the robot refuses no impedance and no limit unless it has the profile's already. -/
structure Meets (f : Firmware K) (c : Call (effects K)) (calls : List (Call (rdkEffects K))) :
    Prop where
  swapped : ∀ profile answer, c = ⟨.setSafetyProfile profile, answer⟩ →
    f.backend.mode.isCartesian = true →
      profile.maxContactWrench = f.profile.maxContactWrench
  unrefused : ∀ command ∈ (rdkWatch.run { mode := .idle } calls).refused, arms command = true →
    f.limit = some f.profile.maxContactWrench

def serving (meets : Firmware K → Call (effects K) → List (Call (rdkEffects K)) → Prop) :
    Environment (effects K) (Firmware K) where
  step f c f' := ∃ calls, f.Step c calls f' ∧ meets f c calls

end Firmware

namespace Firmware

theorem lastLimit_append {K : Type} (limit : Option (Wrench K)) (xs ys : List (RdkCommand K)) :
    lastLimit limit (xs ++ ys) = lastLimit (lastLimit limit xs) ys := List.foldl_append

theorem lastLimit_unlimiting {K : Type} {limit : Option (Wrench K)} {sent : List (RdkCommand K)}
    (none_sent : ∀ c ∈ sent, c.limits = false) : lastLimit limit sent = limit := by
  induction sent with
  | nil => rfl
  | cons c rest ih =>
      rw [List.forall_mem_cons] at none_sent
      have first : lastLimit limit [c] = limit := by
        cases c with
        | setMaxContactWrench wrench => cases none_sent.1
        | _ => rfl
      have split : c :: rest = [c] ++ rest := rfl
      rw [split, lastLimit_append, first]
      exact ih none_sent.2

/-- The limit is what it was, and the mode is Cartesian only if it was. -/
structure Calmer (f f' : Firmware K) : Prop where
  limit : f'.limit = f.limit
  profile : f'.profile = f.profile
  mode : f'.backend.mode.isCartesian = true → f.backend.mode.isCartesian = true

theorem Calmer.armed {f f' : Firmware K} (calmer : f.Calmer f') (armed : f.Armed) : f'.Armed := by
  intro cartesian
  rw [calmer.limit, calmer.profile]
  exact armed (calmer.mode cartesian)

theorem calm_unmoved (limit : Option (Wrench K)) (cartesian : Prop) :
    Unmoved fun backend (side : RdkSide K) => lastLimit limit side.sent = limit ∧
      (backend.mode.isCartesian = true → cartesian) where
  took backend side c unlimiting holds := by
    refine ⟨?_, holds.2⟩
    have taken : (side.take c).sent = side.sent ++ [c] := rfl
    rw [taken, lastLimit_append, holds.1]
    apply lastLimit_unlimiting
    intro other member
    rw [List.mem_singleton.mp member]
    exact unlimiting
  refused _ _ _ holds := holds
  moded backend side mode other holds := by
    refine ⟨holds.1, ?_⟩
    intro impossible
    rw [other] at impossible
    cases impossible

theorem Runs.calmer {α : Type} {f f' : Firmware K} {x : RdkM K α} {out : Except Exc α}
    {calls : List (Call (rdkEffects K))} (runs : f.Runs x out calls f')
    (keeps : Keeps rdkWatch (fun backend (side : RdkSide K) =>
      lastLimit f.limit side.sent = f.limit ∧
        (backend.mode.isCartesian = true → f.backend.mode.isCartesian = true)) x) :
    f.Calmer f' := by
  obtain ⟨backend, ran, rfl⟩ := runs
  have kept := (Program.wp_sound (keeps f.backend { mode := .idle } ⟨rfl, id⟩) ran
    (rdkWatch.admitted_of_forall (fun _ _ => trivial) _ calls)).2
  exact ⟨kept.1, rfl, kept.2⟩

/-- A start's commands: what comes before the limit, the limit, and what comes after. -/
theorem cartesianSetters_split (params : ModeParams K) {wrench : Wrench K}
    (given : params.maxContactWrench = some wrench) :
    ∃ before after, params.cartesianSetters = before ++ .setMaxContactWrench wrench :: after ∧
      (∀ c ∈ before, arms c = true ∧ c.limits = false) ∧ ∀ c ∈ after, c.limits = false := by
  refine ⟨params.impedance.toList.map fun impedance =>
      .setCartesianImpedance impedance.stiffness impedance.dampingRatio,
    params.forceControl.toList.flatMap ModeParams.forceSetters ++
      params.nullspaceQ.toList.map .setNullSpacePosture, ?_, ?_, ?_⟩
  · unfold ModeParams.cartesianSetters
    rw [given]
    rfl
  · intro c member
    obtain ⟨impedance, _, rfl⟩ := List.mem_map.mp member
    exact ⟨rfl, rfl⟩
  · intro c member
    rcases List.mem_append.mp member with force | nullspace
    · obtain ⟨forceControl, _, setter⟩ := List.mem_flatMap.mp force
      rcases List.mem_cons.mp setter with rfl | last
      · rfl
      · rw [List.mem_singleton.mp last]
        rfl
    · obtain ⟨q, _, rfl⟩ := List.mem_map.mp nullspace
      rfl

section Split

variable {K : Type} {before after : List (RdkCommand K)} {wrench : Wrench K}
  {limit : Option (Wrench K)} (arming : ∀ c ∈ before, arms c = true ∧ c.limits = false)
  (unlimiting : ∀ c ∈ after, c.limits = false)

include arming unlimiting

theorem lastLimit_whole :
    lastLimit limit (before ++ .setMaxContactWrench wrench :: after) = some wrench := by
  have first := @lastLimit_unlimiting K limit before fun c member => (arming c member).2
  rw [lastLimit_append, first]
  exact lastLimit_unlimiting unlimiting

/-- Refused at a command that does not matter, a start has sent the limit. -/
theorem lastLimit_halfway {done rest : List (RdkCommand K)} {c : RdkCommand K}
    (split : before ++ .setMaxContactWrench wrench :: after = done ++ c :: rest)
    (harmless : arms c = true → limit = some wrench) : lastLimit limit done = some wrench := by
  rcases List.append_eq_append_iff.mp split with ⟨more, rfl, others⟩ | ⟨more, rfl, others⟩
  · cases more with
    | nil =>
        injection others with same _
        have first := @lastLimit_unlimiting K limit before fun c member => (arming c member).2
        rw [List.append_nil, first]
        exact harmless (by rw [← same]; rfl)
    | cons d more =>
        injection others with same rest_after
        have later : ∀ c ∈ more, c.limits = false := by
          intro c member
          apply unlimiting
          rw [rest_after]
          exact List.mem_append_left _ member
        rw [← same]
        exact lastLimit_whole arming later
  · have armed : arms c = true := by
      cases more with
      | nil =>
          injection others with same _
          rw [same]
          rfl
      | cons d more =>
          injection others with same _
          rw [same]
          exact (arming d (List.mem_append_right _ List.mem_cons_self)).1
    have first := @lastLimit_unlimiting K limit done fun c member =>
      (arming c (List.mem_append_left _ member)).2
    rw [first]
    exact harmless armed

end Split

/-- A Cartesian start with the profile's limit leaves it in force wherever it fails. -/
theorem setMode_armed {f f' : Firmware K} {mode : ControlMode} {params : ModeParams K}
    {answer : Except Exc Unit} {calls : List (Call (rdkEffects K))}
    (given : mode.isCartesian = true → params.maxContactWrench = some f.profile.maxContactWrench)
    (armed : f.Armed) (runs : f.Runs (FlexivRdkBackend.setMode mode params) answer calls f')
    (unrefused : ∀ command ∈ (rdkWatch.run { mode := .idle } calls).refused,
      arms command = true → f.limit = some f.profile.maxContactWrench) : f'.Armed := by
  obtain ⟨backend, ran, rfl⟩ := runs
  have ended := setMode_ended ran
  generalize rdkWatch.run { mode := .idle } calls = side at ended unrefused ⊢
  intro cartesian
  dsimp only at cartesian ⊢
  cases ended with
  | barred e => exact armed cartesian
  | unswitched e => exact armed cartesian
  | @halfway e done rest c split =>
      dsimp only at cartesian
      obtain ⟨before, after, whole, arming, unlimiting⟩ :=
        cartesianSetters_split params (given cartesian)
      rw [ModeParams.setters_cartesian params cartesian, whole] at split
      have refused : c ∈ (((({ mode := .idle } : RdkSide K).take (.switchMode mode)).takeAll
          done).refuse c).refused := List.mem_append_right _ (List.mem_singleton.mpr rfl)
      have sent : (((({ mode := .idle } : RdkSide K).take (.switchMode mode)).takeAll
          done).refuse c).sent = [.switchMode mode] ++ done := by
        change ((({ mode := .idle } : RdkSide K).take (.switchMode mode)).takeAll done).sent = _
        rw [RdkSide.takeAll_sent]
        rfl
      rw [sent, lastLimit_append]
      exact lastLimit_halfway arming unlimiting split (unrefused c refused)
  | started =>
      dsimp only at cartesian
      obtain ⟨before, after, whole, arming, unlimiting⟩ :=
        cartesianSetters_split params (given cartesian)
      rw [ModeParams.setters_cartesian params cartesian, whole, RdkSide.takeAll_sent,
        lastLimit_append]
      exact lastLimit_whole arming unlimiting

theorem setContactWrenchLimit_spec (wrench : Wrench K) (backend : FlexivRdkBackend K)
    (side : RdkSide K) :
    wp rdkWatch (FlexivRdkBackend.setContactWrenchLimit wrench)
      (fun out backend' side' => backend' = backend ∧
        (backend.mode.isCartesian = true →
          (out = .ok () ∧ side' = side.take (.setMaxContactWrench wrench)) ∨
            side' = side.refuse (.setMaxContactWrench wrench)) ∧
        (¬ backend.mode.isCartesian = true → side' = side)) backend side := by
  unfold FlexivRdkBackend.setContactWrenchLimit
  rw [wp_bind, wp_get, afterStep_ok]
  by_cases cartesian : backend.mode.isCartesian = true
  · rw [if_pos cartesian, wp_command]
    have inside {side' : RdkSide K} : ¬ backend.mode.isCartesian = true → side' = side :=
      fun outside => absurd cartesian outside
    exact ⟨⟨rfl, fun _ => Or.inl ⟨rfl, rfl⟩, inside⟩, fun _ => ⟨rfl, fun _ => Or.inr rfl, inside⟩⟩
  · rw [if_neg cartesian]
    exact ⟨rfl, fun impossible => absurd impossible cartesian, fun _ => rfl⟩

theorem setContactWrenchLimit_armed {f f' : Firmware K} {answer : Except Exc Unit}
    {calls : List (Call (rdkEffects K))}
    (runs : f.Runs (FlexivRdkBackend.setContactWrenchLimit f.profile.maxContactWrench) answer calls
      f')
    (unrefused : ∀ command ∈ (rdkWatch.run { mode := .idle } calls).refused,
      arms command = true → f.limit = some f.profile.maxContactWrench) : f'.Armed := by
  obtain ⟨backend, ran, rfl⟩ := runs
  have ended := (Program.wp_sound (setContactWrenchLimit_spec f.profile.maxContactWrench f.backend
    { mode := .idle }) ran (rdkWatch.admitted_of_forall (fun _ _ => trivial) _ calls)).2
  obtain ⟨same, inside, _⟩ := ended
  intro cartesian
  dsimp only at cartesian same ⊢
  rw [same] at cartesian
  rcases inside cartesian with ⟨_, took⟩ | refused
  · rw [took]
    rfl
  · rw [refused] at unrefused ⊢
    exact unrefused _ (List.mem_singleton.mpr rfl) rfl

theorem setContactWrenchLimit_raised {f f' : Firmware K} {wrench : Wrench K} {e : Exc}
    {calls : List (Call (rdkEffects K))}
    (runs : f.Runs (FlexivRdkBackend.setContactWrenchLimit wrench) (.error e) calls f') :
    f.Calmer f' := by
  obtain ⟨backend, ran, rfl⟩ := runs
  have ended := (Program.wp_sound (setContactWrenchLimit_spec wrench f.backend
    { mode := .idle }) ran (rdkWatch.admitted_of_forall (fun _ _ => trivial) _ calls)).2
  obtain ⟨same, inside, outside⟩ := ended
  dsimp only at same
  have mode : backend.mode.isCartesian = true → f.backend.mode.isCartesian = true := by
    rw [same]
    exact id
  by_cases cartesian : f.backend.mode.isCartesian = true
  · rcases inside cartesian with ⟨impossible, _⟩ | refused
    · cases impossible
    · refine ⟨?_, rfl, mode⟩
      dsimp only
      rw [refused]
      rfl
  · refine ⟨?_, rfl, mode⟩
    dsimp only
    rw [outside cartesian]
    rfl

end Firmware

/-- Whatever the facade's profile is not needed for, and Cartesian starts with its limit. -/
def BackendCall.IsPlain (profile : SafetyProfile K) : BackendCall K → Prop
  | .setContactWrenchLimit _ => False
  | .setMode mode params =>
      mode.isCartesian = true → params.maxContactWrench = some profile.maxContactWrench
  | _ => True

def Op.IsPlain (profile : SafetyProfile K) : Op K → Prop
  | .write call => call.IsPlain profile
  | .setSafetyProfile _ => False
  | _ => True

theorem Op.IsGripping.plain {op : Op K} (gripping : op.IsGripping) (profile : SafetyProfile K) :
    op.IsPlain profile := by
  cases op with
  | write call =>
      cases call with
      | moveGripper cmd => trivial
      | _ => exact absurd gripping id
  | setSafetyProfile profile => exact absurd gripping id
  | _ => trivial

namespace Firmware

theorem Runs.profile_kept {α : Type} {f f' : Firmware K} {x : RdkM K α} {out : Except Exc α}
    {calls : List (Call (rdkEffects K))} (runs : f.Runs x out calls f') :
    f'.profile = f.profile := by
  obtain ⟨backend, _, rfl⟩ := runs
  rfl

theorem Step.profile_kept {f f' : Firmware K} {op : Op K} {answer : Op.Resp op}
    {calls : List (Call (rdkEffects K))} (unswapped : ∀ profile, op ≠ .setSafetyProfile profile)
    (step : f.Step ⟨op, answer⟩ calls f') : f'.profile = f.profile := by
  unfold Step at step
  cases op with
  | readState => exact Runs.profile_kept step
  | write call =>
      dsimp only at step
      split at step
      · exact Runs.profile_kept step
      · rw [step.2]
  | setSafetyProfile profile => exact absurd rfl (unswapped profile)
  | _ => rw [step.2]

theorem Step.plain_armed {f f' : Firmware K} {op : Op K} {answer : Op.Resp op}
    {calls : List (Call (rdkEffects K))} (plain : op.IsPlain f.profile) (armed : f.Armed)
    (step : f.Step ⟨op, answer⟩ calls f') (meets : f.Meets ⟨op, answer⟩ calls) : f'.Armed := by
  have still := calm_unmoved f.limit (f.backend.mode.isCartesian = true)
  unfold Step at step
  cases op with
  | readState => exact (Runs.calmer step (keeps_rdkReadState still)).armed armed
  | setSafetyProfile profile => exact absurd plain id
  | write call =>
      dsimp only at step
      cases call with
      | setMode mode params => exact setMode_armed plain armed step meets.unrefused
      | streamCartesian pose wrench =>
          exact (Runs.calmer step (keeps_rdkStreamCartesian still pose wrench)).armed armed
      | stop => exact (Runs.calmer step (keeps_rdkStop still)).armed armed
      | home qHome => exact (Runs.calmer step (keeps_rdkHome still (some qHome))).armed armed
      | zeroFtSensor => exact (Runs.calmer step (keeps_rdkZeroFtSensor still)).armed armed
      | setContactWrenchLimit wrench => exact absurd plain id
      | streamJoint q =>
          rw [step.2]
          exact armed
      | moveGripper cmd =>
          rw [step.2]
          exact armed
  | _ =>
      rw [step.2]
      exact armed

theorem Step.swap_armed {f f' : Firmware K} {profile : SafetyProfile K} {answer : Unit}
    {calls : List (Call (rdkEffects K))} (armed : f.Armed)
    (step : f.Step ⟨.setSafetyProfile profile, answer⟩ calls f')
    (meets : f.Meets ⟨.setSafetyProfile profile, answer⟩ calls) :
    f'.profile = profile ∧ f'.Armed := by
  obtain ⟨_, rfl⟩ := step
  refine ⟨rfl, ?_⟩
  intro cartesian
  dsimp only at cartesian ⊢
  rw [meets.swapped profile answer rfl cartesian]
  exact armed cartesian

end Firmware

end FlexivControl
