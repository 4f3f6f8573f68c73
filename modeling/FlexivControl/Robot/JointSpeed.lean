/-
The speed of a joint move.

The duration of a move is its largest excursion over the speed asked for, but the ease that
fills it is faster in the middle than on average. Only the filter, which follows the
profile's cap, or a segment whose longest tick is short enough keeps the move under the
speed.
-/

import FlexivControl.Filter.JointSizes
import FlexivControl.Robot.Untouched
import Mathlib.Analysis.Real.Pi.Bounds

namespace FlexivControl

open Broadcast Ease Script

noncomputable def follow (cap : ℝ) (ref goal : List ℝ) : List ℝ :=
  List.zipWith (fun r g => r + clampStep cap (g - r)) ref goal

/-- Steps of at most `step`, and none at all under a negative cap. -/
def Unhurried (cap step : ℝ) (ref goal : List ℝ) : Prop :=
  List.Forall₂ (fun r g => |g - r| ≤ step ∧ (cap < 0 → g = r)) ref goal

theorem abs_clampStep_le_abs (cap gap : ℝ) : |clampStep cap gap| ≤ |cap| := by
  unfold clampStep
  rw [Scalar.abs_real]
  by_cases long : cap < |gap|
  · rw [if_pos long, abs_mul]
    apply mul_le_of_le_one_left (abs_nonneg _)
    unfold Scalar.sign
    split
    · rw [abs_neg, abs_one]
    · split
      · rw [abs_one]
      · rw [abs_zero]
        exact zero_le_one
  · rw [if_neg long]
    exact (not_lt.mp long).trans (le_abs_self cap)

theorem abs_clampStep_of_long {cap gap : ℝ} (long : cap < |gap|) (moves : gap ≠ 0) :
    |clampStep cap gap| = |cap| := by
  unfold clampStep
  rw [Scalar.abs_real, if_pos long, abs_mul]
  unfold Scalar.sign
  rcases lt_or_gt_of_ne moves with negative | positive
  · rw [if_pos negative, abs_neg, abs_one, one_mul]
  · rw [if_neg (not_lt.mpr positive.le), if_pos positive, abs_one, one_mul]

theorem follow_near {cap step : ℝ} (slow : |cap| ≤ step) :
    ∀ {ref goal : List ℝ}, ref.length = goal.length → JointsWithin step ref (follow cap ref goal)
  | [], [], _ => .nil
  | r :: ref, g :: goal, same => by
      refine .cons ?_ (follow_near slow (Nat.succ.inj same))
      rw [add_sub_cancel_left]
      exact (abs_clampStep_le_abs cap (g - r)).trans slow

theorem follow_of_unhurried {cap step : ℝ} (fast : step < |cap|) {ref goal : List ℝ}
    (slow : Unhurried cap step ref goal) : follow cap ref goal = goal := by
  induction slow with
  | nil => rfl
  | @cons r g ref goal head _ ih =>
      obtain ⟨short, still⟩ := head
      have reached : r + clampStep cap (g - r) = g := by
        by_cases negative : cap < 0
        · rw [still negative, sub_self, clampStep_zero, add_zero]
        · have cut : ¬ cap < |g - r| := by
            rw [abs_of_nonneg (not_lt.mp negative)] at fast
            exact not_lt.mpr (short.trans fast.le)
          rw [clampStep_of_short cut, add_sub_cancel]
      change (r + clampStep cap (g - r)) :: follow cap ref goal = g :: goal
      rw [reached, ih]

/-- Conversely, a follower that stays within shorter steps than its cap has reached its goal,
which was as near. -/
theorem unhurried_of_follow {cap step : ℝ} (fast : step < |cap|) :
    ∀ {ref goal : List ℝ}, ref.length = goal.length → JointsWithin step ref (follow cap ref goal) →
      Unhurried cap step ref goal
  | [], [], _, _ => .nil
  | r :: ref, g :: goal, same, near => by
      cases near with
      | cons head rest =>
          refine .cons ?_ (unhurried_of_follow fast (Nat.succ.inj same) rest)
          rw [add_sub_cancel_left] at head
          by_cases long : cap < |g - r|
          · by_cases still : g - r = 0
            · have here : g = r := sub_eq_zero.mp still
              rw [still, clampStep_zero] at head
              rw [still]
              exact ⟨head, fun _ => here⟩
            · rw [abs_clampStep_of_long long still] at head
              exact absurd head (not_le.mpr fast)
          · rw [clampStep_of_short long] at head
            refine ⟨head, ?_⟩
            intro negative
            exact absurd ((abs_nonneg _).trans (not_lt.mp long)) (not_le.mpr negative)

/-! ### The filter follows -/

noncomputable def SafetyProfile.limited (p : SafetyProfile ℝ) (q : List ℝ) : List ℝ :=
  (p.limitedJoints q).toOption.getD q

theorem limitedJoints_limited {p : SafetyProfile ℝ} {m : ℕ} (sized : p.SizedFor m)
    {q : List ℝ} (whole : q.length = m) :
    p.limitedJoints q = .ok (p.limited q) ∧ (p.limited q).length = m := by
  obtain ⟨clipped, inside, clips, compared, length, _⟩ := limitedJoints_sized sized whole
  have answered : p.limitedJoints q = .ok (if inside then q else clipped) := by
    unfold SafetyProfile.limitedJoints
    rw [clips]
    change (do let inside ← allcloseJoints clipped q; _) = _
    rw [compared]
    rfl
  have same : p.limited q = if inside then q else clipped := by
    unfold SafetyProfile.limited
    rw [answered]
    rfl
  rw [same]
  exact ⟨answered, length⟩

theorem zipWith_clamped (cap : ℝ) : ∀ ref goal : List ℝ,
    List.zipWith (· + ·) ref ((List.zipWith (· - ·) goal ref).map (clampStep cap)) =
      follow cap ref goal
  | [], _ => rfl
  | _ :: _, [] => rfl
  | _ :: ref, _ :: goal => congrArg (_ :: ·) (zipWith_clamped cap ref goal)

theorem follow_of_short {cap : ℝ} : ∀ {ref goal : List ℝ}, ref.length = goal.length →
    (∀ s ∈ List.zipWith (· - ·) goal ref, ¬ cap < |s|) → follow cap ref goal = goal
  | [], [], _, _ => rfl
  | r :: ref, g :: goal, same, short => by
      rw [List.zipWith_cons_cons, List.forall_mem_cons] at short
      change (r + clampStep cap (g - r)) :: follow cap ref goal = g :: goal
      rw [clampStep_of_short short.1, add_sub_cancel,
        follow_of_short (Nat.succ.inj same) short.2]

theorem SafetyFilter.filterJoint_follows {f : SafetyFilter ℝ} {m : ℕ} (sized : f.p.SizedFor m)
    {ref : List ℝ} (at_ref : f.prevQ = some ref) (start : ref.length = m) {sent : List ℝ}
    (whole : sent.length = m) (state : RobotState ℝ) :
    ∃ sr, f.filterJoint sent state =
        .ok (sr, { f with prevQ := some (follow (maxJointStep f.p f.dt) ref (f.p.limited sent)) }) ∧
      sr.ok = true ∧ sr.q = some (follow (maxJointStep f.p f.dt) ref (f.p.limited sent)) := by
  obtain ⟨clipped, inside, clips, compared, length, _⟩ := limitedJoints_sized sized whole
  have reference : f.prevQ.getD state.q = ref := by rw [at_ref, Option.getD_some]
  have sizes : (if inside then sent else clipped).length = ref.length := length.trans start.symm
  have moves : ref.length = ((List.zipWith (· - ·) (if inside then sent else clipped) ref).map
      (clampStep (maxJointStep f.p f.dt))).length := by
    rw [List.length_map, List.length_zipWith, sizes, min_self]
  obtain ⟨sr, q, passed, found, _⟩ := filterJoint_answers clips compared
    (by rw [reference]; exact broadcast_of_length_eq _ sizes)
    (by rw [reference]; exact broadcast_of_length_eq _ moves)
  obtain ⟨limited, step, q', limit, stepped, ok, found', left, moved⟩ := filterJoint_ok passed
  obtain ⟨answered, long⟩ := limitedJoints_limited sized whole
  rw [limit, Except.ok.injEq] at answered
  rw [← answered] at long ⊢
  rw [reference, broadcast_of_length_eq _ (long.trans start.symm), Except.ok.injEq] at stepped
  subst stepped
  have same : q' = follow (maxJointStep f.p f.dt) ref limited := by
    rcases moved with ⟨straight, short⟩ | ⟨_, saturated⟩
    · rw [straight]
      refine (follow_of_short (start.trans long.symm) ?_).symm
      intro s member
      rw [← Scalar.abs_real]
      exact short s member
    · rw [reference, broadcast_of_length_eq _ (by
        rw [List.length_map, List.length_zipWith, long, start, min_self]), zipWith_clamped,
        Except.ok.injEq] at saturated
      exact saturated.symm
  rw [← same]
  exact ⟨sr, passed.trans (by rw [left]), ok, found'⟩

/-- Following the goals one after the other, every command is within `step` of the one before. -/
def FollowedWithin (cap step : ℝ) : List ℝ → List (List ℝ) → Prop
  | _, [] => True
  | ref, goal :: rest => JointsWithin step ref (follow cap ref goal) ∧
      FollowedWithin cap step (follow cap ref goal) rest

theorem follow_length (cap : ℝ) {ref goal : List ℝ} (same : ref.length = goal.length) :
    (follow cap ref goal).length = goal.length := by
  rw [follow, List.length_zipWith, same, min_self]

theorem followedWithin_of_slow {cap step : ℝ} (slow : |cap| ≤ step) {m : ℕ} (goals : List (List ℝ)) :
    ∀ {ref : List ℝ}, ref.length = m → (∀ goal ∈ goals, goal.length = m) →
      FollowedWithin cap step ref goals := by
  induction goals with
  | nil => exact fun _ _ => trivial
  | cons goal rest ih =>
      intro ref full sizes
      rw [List.forall_mem_cons] at sizes
      have same := full.trans sizes.1.symm
      exact ⟨follow_near slow same, ih ((follow_length cap same).trans sizes.1) sizes.2⟩

theorem followedWithin_iff {cap step : ℝ} (fast : step < |cap|) {m : ℕ} (goals : List (List ℝ)) :
    ∀ {ref : List ℝ}, ref.length = m → (∀ goal ∈ goals, goal.length = m) →
      (FollowedWithin cap step ref goals ↔ (ref :: goals).IsChain (Unhurried cap step)) := by
  induction goals with
  | nil => exact fun _ _ => iff_of_true trivial (List.isChain_singleton _)
  | cons goal rest ih =>
      intro ref full sizes
      rw [List.forall_mem_cons] at sizes
      rw [List.isChain_cons_cons]
      constructor
      · rintro ⟨near, later⟩
        have slow := unhurried_of_follow fast (full.trans sizes.1.symm) near
        rw [follow_of_unhurried fast slow] at later
        exact ⟨slow, (ih sizes.1 sizes.2).mp later⟩
      · rintro ⟨slow, later⟩
        unfold FollowedWithin
        rw [follow_of_unhurried fast slow]
        refine ⟨?_, (ih sizes.1 sizes.2).mpr later⟩
        exact slow.imp fun _ _ short => short.1

noncomputable def excursion (start target : List ℝ) : ℝ :=
  (maxAbs (List.zipWith (· - ·) target start)).toOption.getD 0

/-- The ticks of a move: its excursion at the speed asked for, but a second at least, and as
many as the profile's own cap stretches it to. -/
noncomputable def moveTicks (p : SafetyProfile ℝ) (hz w : ℝ) (start target : List ℝ) : ℕ :=
  (max (requestedTicks (max 1 (excursion start target / w)) hz)
    (cappedTicks (some (Scalar.ofNat 2 * p.maxJointSpeedScale)) (1 / hz)
      (excursion start target))).toNat

theorem moveTicks_pos (p : SafetyProfile ℝ) (hz w : ℝ) (start target : List ℝ) :
    0 < moveTicks p hz w start target := by
  have one : 1 ≤ requestedTicks (max 1 (excursion start target / w)) hz := le_max_left _ _
  have more : requestedTicks (max 1 (excursion start target / w)) hz ≤
      max (requestedTicks (max 1 (excursion start target / w)) hz)
        (cappedTicks (some (Scalar.ofNat 2 * p.maxJointSpeedScale)) (1 / hz)
          (excursion start target)) := le_max_left _ _
  unfold moveTicks
  omega

theorem excursion_spec {start target : List ℝ} (same : start.length = target.length)
    (jointed : start ≠ []) :
    maxAbs (List.zipWith (· - ·) target start) = .ok (excursion start target) ∧
      JointsWithin (excursion start target) start target := by
  have moving : List.zipWith (· - ·) target start ≠ [] := by
    intro empty
    have none := congrArg List.length empty
    rw [List.length_zipWith, same, min_self, ← same] at none
    exact jointed (List.length_eq_zero_iff.mp none)
  obtain ⟨dq, largest, bounded⟩ := maxAbs_spec moving
  have found : excursion start target = dq := by
    rw [excursion, largest]
    rfl
  rw [found]
  exact ⟨largest, jointsWithin_of_move _ _ same bounded⟩

theorem jointMoveDuration_speed {start target : List ℝ} (same : start.length = target.length)
    (jointed : start ≠ []) {w : ℝ} (positive : 0 < w) :
    jointMoveDuration start target none (some w) = .ok (max 1 (excursion start target / w)) := by
  unfold jointMoveDuration
  dsimp only [bind, Except.bind]
  rw [if_pos positive, broadcast_of_length_eq _ same.symm]
  dsimp only
  rw [(excursion_spec same jointed).1]
  dsimp only
  rw [Scalar.greater_real]

theorem JointChunkInterpolator.setpoints_walk {interp : JointChunkInterpolator ℝ}
    {p : SafetyProfile ℝ} {start target : List ℝ} {w : ℝ} {wp : JointWaypoint ℝ}
    (only : interp.chunk.waypoints = [wp]) (goes : wp.positions = target)
    (timed : wp.resolveDuration interp.hz = max 1 (excursion start target / w))
    (from_start : interp.startQ = start)
    (capped : interp.maxJointSpeed = some (Scalar.ofNat 2 * p.maxJointSpeedScale))
    (same : start.length = target.length) (jointed : start ≠ []) :
    interp.setpoints =
      (jointWalk start target (moveTicks p interp.hz w start target)).map Except.ok := by
  have walked (n : ℕ) : ((List.range n).map fun k =>
      broadcast (· + ·) start ((List.zipWith (· - ·) target start).map
        (cosineBlend (Scalar.ofNat (k + 1) / Scalar.ofNat n) * ·))) ++
          interp.setpointsFrom target [] = (jointWalk start target n).map Except.ok := by
    rw [setpointsFrom, List.append_nil, jointWalk, List.map_map]
    apply List.map_congr_left
    intro k inside
    have sizes : start.length = ((List.zipWith (· - ·) target start).map
        (cosineBlend (Scalar.ofNat (k + 1) / Scalar.ofNat n) * ·)).length := by
      rw [List.length_map, List.length_zipWith, same, min_self]
    rw [broadcast_of_length_eq _ sizes, jointStep_eq, cosineBlend_tick (List.mem_range.mp inside)]
    rfl
  have atLeastOne : 1 ≤ requestedTicks (max 1 (excursion start target / w)) interp.hz :=
    le_max_left _ _
  unfold setpoints
  rw [only, from_start, setpointsFrom, goes, timed, broadcast_of_length_eq _ same.symm, capped]
  dsimp only [bind, Except.bind, pure, Except.pure]
  by_cases positive : 0 < Scalar.ofNat 2 * p.maxJointSpeedScale
  · rw [if_pos positive, (excursion_spec same jointed).1]
    dsimp only
    rw [max_eq_right (atLeastOne.trans (le_max_left _ _))]
    exact walked _
  · have free : cappedTicks (some (Scalar.ofNat 2 * p.maxJointSpeedScale)) (1 / interp.hz)
        (excursion start target) = 1 := if_neg positive
    rw [if_neg positive]
    dsimp only
    rw [max_eq_right atLeastOne, ← max_eq_left atLeastOne, ← free]
    exact walked _

/-! ### Watching the commands -/

/-- The last joint command, or where the arm stood before the first. -/
structure Commanded where
  last : List ℝ
  moving : Bool := false

noncomputable def Commanded.next (s : Commanded) (c : Call (effects ℝ)) : Commanded :=
  match c with
  | ⟨.write (.streamJoint q), _⟩ => ⟨q, true⟩
  | _ => s

def Commanded.Reads (s : Commanded) (c : Call (effects ℝ)) : Prop :=
  match c with
  | ⟨.readState, .ok state⟩ => s.moving = false → state.q = s.last
  | _ => True

def Commanded.Steps (step : ℝ) (s : Commanded) (op : Op ℝ) : Prop :=
  match op with
  | .write (.streamJoint q) => JointsWithin step s.last q
  | _ => True

/-- No command more than `step` from the one before in any joint. -/
noncomputable def speedGuard (step : ℝ) : Monitor (effects ℝ) Commanded where
  observe := Commanded.next
  admits := Commanded.Reads
  allows := Commanded.Steps step

def Op.IsUnstreamed (op : Op ℝ) : Prop := ∀ q, op ≠ .write (.streamJoint q)

theorem Op.IsCartesian.unstreamed {op : Op ℝ} (cartesian : op.IsCartesian) : op.IsUnstreamed := by
  rintro q rfl
  exact cartesian

theorem Commanded.next_of_unstreamed (s : Commanded) {c : Call (effects ℝ)}
    (unstreamed : Op.IsUnstreamed c.op) : s.next c = s := by
  unfold next
  split
  · exact absurd rfl (unstreamed _)
  · rfl

theorem Commanded.steps_of_unstreamed (step : ℝ) (s : Commanded) {op : Op ℝ}
    (unstreamed : op.IsUnstreamed) : s.Steps step op := by
  unfold Steps
  split
  · exact absurd rfl (unstreamed _)
  · trivial

section Guarded

variable {step : ℝ} {α : Type}

theorem wp_unstreamed {x : RobotM ℝ α} (uses : Uses (S := effects ℝ) Op.IsUnstreamed x)
    (robot : Robot ℝ) (s : Commanded) :
    wp (speedGuard step) x (fun _ _ s' => s' = s) robot s := by
  refine uses.wp ?_ ?_ rfl
  · intro s' op unstreamed _
    exact s'.steps_of_unstreamed step unstreamed
  · rintro s' op r unstreamed rfl
    exact s'.next_of_unstreamed unstreamed

theorem wp_guardedRead {f : RobotState ℝ → RobotM ℝ α}
    {post : Except Exc α → Robot ℝ → Commanded → Prop} {robot : Robot ℝ} {s : Commanded}
    (rest : ∀ state, (s.moving = false → state.q = s.last) →
      wp (speedGuard step) (f state) post robot s) (raised : ∀ e, post (.error e) robot s) :
    wp (speedGuard step) (do let state ← getState; f state) post robot s := by
  unfold getState
  simp only [wp_bind, wp_readState]
  refine ⟨trivial, fun answer admitted => ?_⟩
  cases answer with
  | error e => exact raised e
  | ok state => exact ⟨trivial, fun _ _ => rest state admitted⟩

theorem wp_guardedCheck {f : Bool → RobotM ℝ α} {post : Except Exc α → Robot ℝ → Commanded → Prop}
    {robot : Robot ℝ} {s : Commanded} (rest : ∀ b, wp (speedGuard step) (f b) post robot s)
    (raised : ∀ e, post (.error e) robot s) :
    wp (speedGuard step) (do let faulted ← inFault; f faulted) post robot s := by
  rw [wp_bind, wp_inFault]
  refine ⟨trivial, fun answer _ => ?_⟩
  cases answer with
  | error e => exact raised e
  | ok faulted => exact rest faulted

theorem wp_guardedLease {x : RobotM ℝ α} {post : Except Exc α → Robot ℝ → Commanded → Prop}
    {robot : Robot ℝ} {s : Commanded} (rest : wp (speedGuard step) x post robot s) :
    wp (speedGuard step) (do checkLease; x) post robot s := by
  unfold checkLease
  rw [wp_bind, wp_bind, wp_op]
  refine ⟨trivial, fun known _ => ?_⟩
  rw [afterStep_ok]
  cases known with
  | none =>
      dsimp only
      rw [wp_op]
      exact ⟨trivial, fun _ _ => rest⟩
  | some owner => exact rest

end Guarded

section Ticks

variable {p : SafetyProfile ℝ} {dt step : ℝ} {m : ℕ}

/-- A contact cap below nought, which every reading exceeds. -/
def SafetyProfile.StopsAlways (p : SafetyProfile ℝ) : Prop := ∃ axis, p.maxContactWrench axis < 0

theorem SafetyProfile.StopsAlways.exceeds (stops : p.StopsAlways) (wrench : Wrench ℝ) :
    exceeds wrench p.maxContactWrench = true := by
  obtain ⟨axis, negative⟩ := stops
  rw [exceeds_real]
  exact ⟨axis, negative.trans_le (abs_nonneg _)⟩

def AfterTick (p : SafetyProfile ℝ) (dt : ℝ) (commanded : List ℝ)
    (out : Except Exc (ExecutionResult ℝ × Bool)) (robot : Robot ℝ) (s : Commanded) : Prop :=
  ∀ result, out = .ok (result, true) →
    ¬ p.StopsAlways ∧ robot.FiltersJointsFrom p dt commanded ∧ s = ⟨commanded, true⟩

theorem wp_guardedHalt {commanded : List ℝ} (x : RobotM ℝ Unit)
    (uses : Uses (S := effects ℝ) Op.IsUnstreamed x) (result : ExecutionResult ℝ) (robot : Robot ℝ)
    (s : Commanded) :
    wp (speedGuard step) (do x; return (result, false)) (AfterTick p dt commanded) robot s := by
  rw [wp_bind]
  apply wp_mono (wp_unstreamed uses robot s)
  intro out robot' s' _
  cases out with
  | error e =>
      intro result same
      cases same
  | ok done =>
      intro result same
      cases same

theorem unstreamed_stop : Uses (S := effects ℝ) Op.IsUnstreamed (backend (K := ℝ) .stop) := by
  apply uses_backend
  intro q same
  cases same

theorem jointTick_speedGuarded {ref goal : List ℝ} {robot : Robot ℝ} {moving : Bool}
    (filters : robot.FiltersJointsFrom p dt ref) (sized : p.SizedFor m) (full : ref.length = m)
    (whole : goal.length = m)
    (fine : p.StopsAlways ∨ JointsWithin step ref (follow (maxJointStep p dt) ref (p.limited goal)))
    (result : ExecutionResult ℝ) :
    wp (speedGuard step) (jointTick goal result)
      (AfterTick p dt (follow (maxJointStep p dt) ref (p.limited goal))) robot ⟨ref, moving⟩ := by
  obtain ⟨active, sameProfile, sameStep, at_ref⟩ := filters
  have raised (e : Exc) (robot : Robot ℝ) (s : Commanded) :
      AfterTick p dt (follow (maxJointStep p dt) ref (p.limited goal)) (.error e) robot s := by
    intro result same
    cases same
  unfold jointTick cancelIsSet
  rw [wp_bind, wp_op]
  refine ⟨trivial, fun set _ => ?_⟩
  rw [afterStep_ok]
  cases set with
  | true =>
      apply wp_guardedHalt cancelTick
      exact uses_cancelTick.mono fun _ => Op.IsCartesian.unstreamed
  | false =>
      change wp _ (do let state ← getState; _) _ _ _
      apply wp_guardedRead _ (fun e => raised e _ _)
      intro state _
      apply wp_guardedCheck _ (fun e => raised e _ _)
      intro faulted
      cases faulted with
      | true => exact wp_guardedHalt _ unstreamed_stop _ _ _
      | false =>
          change wp _ (do let robot ← get; _) _ _ _
          rw [wp_bind, wp_get, afterStep_ok, active]
          by_cases heavy : exceeds state.wrench p.maxContactWrench = true
          · rw [if_pos heavy]
            exact wp_guardedHalt _ unstreamed_stop _ _ _
          · rw [if_neg heavy, wp_bind]
            have light : ¬ p.StopsAlways := fun stops => heavy (stops.exceeds _)
            obtain ⟨sr, passed, ok, found⟩ := SafetyFilter.filterJoint_follows (by rwa [sameProfile])
              at_ref full whole state
            rw [sameProfile, sameStep] at passed found
            apply wp_filterJoint_of passed
            rw [afterStep_ok, ok, found]
            dsimp only
            rw [wp_bind, wp_backend]
            refine ⟨fine.resolve_left light, fun answer _ => ?_⟩
            cases answer with
            | error e => exact raised e _ _
            | ok done =>
                intro result' _
                exact ⟨light, ⟨active, rfl, rfl, rfl⟩, rfl⟩

theorem jointTicks_speedGuarded (sized : p.SizedFor m) (goals : List (List ℝ)) :
    ∀ {ref : List ℝ} {robot : Robot ℝ} {moving : Bool} (result : ExecutionResult ℝ),
      robot.FiltersJointsFrom p dt ref → ref.length = m → (∀ goal ∈ goals, goal.length = m) →
      (p.StopsAlways ∨ FollowedWithin (maxJointStep p dt) step ref (goals.map p.limited)) →
      wp (speedGuard step) (jointTicks (goals.map Except.ok) result) (fun _ _ _ => True) robot
        ⟨ref, moving⟩ := by
  induction goals with
  | nil => exact fun _ _ _ _ _ => trivial
  | cons goal rest ih =>
      intro ref robot moving result filters full sizes fine
      rw [List.forall_mem_cons] at sizes
      rw [List.map_cons]
      unfold jointTicks
      rw [wp_bind, wp_attempt, afterStep_ok, wp_bind]
      have near : p.StopsAlways ∨
          JointsWithin step ref (follow (maxJointStep p dt) ref (p.limited goal)) :=
        fine.imp_right fun followed => followed.1
      apply wp_mono (jointTick_speedGuarded filters sized full sizes.1 near result)
      intro out robot' s' after
      cases out with
      | error e => trivial
      | ok answer =>
          obtain ⟨result', goOn⟩ := answer
          rw [afterStep_ok]
          dsimp only
          cases goOn with
          | false => trivial
          | true =>
              obtain ⟨light, filters', rfl⟩ := after result' rfl
              have limited := (limitedJoints_limited sized sizes.1).2
              rw [if_pos rfl]
              apply ih result' filters' ((follow_length _ (full.trans limited.symm)).trans limited)
                sizes.2
              exact Or.inr (fine.resolve_left light).2

end Ticks

noncomputable def moveGoals (p : SafetyProfile ℝ) (hz w : ℝ) (start target : List ℝ) :
    List (List ℝ) :=
  (jointWalk start target (moveTicks p hz w start target)).map p.limited

section Moves

variable {step w : ℝ} {m : ℕ} {robot : Robot ℝ} {start target : List ℝ}

theorem jointWalk_lengths (full : start.length = m) (fit : target.length = m) (n : ℕ) :
    ∀ goal ∈ jointWalk start target n, goal.length = m := by
  intro goal member
  obtain ⟨k, _, rfl⟩ := List.mem_map.mp member
  rw [alongJoints, List.length_zipWith, full, fit, min_self]

noncomputable def moveChunk (target : List ℝ) (duration : ℝ) (name : String) : JointChunk ℝ where
  waypoints := [{ positions := target, duration := some duration, timed := Or.inr rfl }]
  safetyProfile := name
  nonempty := List.cons_ne_nil _ _

theorem moveChunk_setpoints (same : start.length = target.length) (jointed : start ≠ [])
    (robot : Robot ℝ) (name : String) :
    (robot.jointInterpolator (moveChunk target (max 1 (excursion start target / w)) name)
      start).setpoints =
      (jointWalk start target
        (moveTicks robot.profile robot.controlHz w start target)).map Except.ok :=
  JointChunkInterpolator.setpoints_walk rfl rfl rfl rfl rfl same jointed

theorem ensureJointStart_speedGuarded (result : ExecutionResult ℝ) (robot : Robot ℝ) :
    wp (speedGuard step) (ensureJointStart result)
      (fun out robot' s' => ∀ started, out = .ok started →
        started.1.q = start ∧ robot' = robot ∧ s' = ⟨start, false⟩) robot ⟨start, false⟩ := by
  have raised (e : Exc) : ∀ started : RobotState ℝ × ExecutionResult ℝ,
      (.error e : Except Exc _) = .ok started →
      started.1.q = start ∧ robot = robot ∧ (⟨start, false⟩ : Commanded) = ⟨start, false⟩ := by
    intro started same
    cases same
  unfold ensureJointStart
  apply wp_guardedRead _ raised
  intro state standing
  split
  · unfold startJointImpedance
    rw [wp_bind, wp_backend]
    refine ⟨trivial, fun answer _ => ?_⟩
    cases answer with
    | error e => exact raised e
    | ok done =>
        rw [afterStep_ok]
        apply wp_guardedRead _ raised
        intro state standing started same
        cases same
        exact ⟨standing rfl, rfl, rfl⟩
  · intro started same
    cases same
    exact ⟨standing rfl, rfl, rfl⟩

theorem runJointChunk_speedGuarded (paced : robot.Paced) (sized : robot.profile.SizedFor m)
    (full : start.length = m) (fit : target.length = m) (jointed : start ≠ [])
    (fine : robot.profile.StopsAlways ∨
      FollowedWithin (maxJointStep robot.profile (1 / robot.controlHz)) step start
        (moveGoals robot.profile robot.controlHz w start target)) (name : String) :
    wp (speedGuard step)
      (runJointChunk (moveChunk target (max 1 (excursion start target / w)) name) false)
      (fun _ _ _ => True) robot ⟨start, false⟩ := by
  unfold runJointChunk verifyChunkProfile
  rw [wp_bind, wp_bind, wp_get, afterStep_ok]
  dsimp only
  split
  · trivial
  rw [wp_pure, afterStep_ok, wp_bind]
  apply wp_mono (ensureJointStart_speedGuarded _ robot)
  intro out robot' s' begun
  cases out with
  | error e => trivial
  | ok started =>
      obtain ⟨stands, rfl, rfl⟩ := begun started rfl
      obtain ⟨state, result⟩ := started
      rw [afterStep_ok]
      dsimp only
      rw [wp_bind, wp_resetFilter, afterStep_ok, wp_bind, wp_get, afterStep_ok, wp_bind]
      unfold perfCounter
      rw [wp_op]
      refine ⟨trivial, fun now _ => ?_⟩
      rw [afterStep_ok, wp_bind]
      change state.q = start at stands
      have filters : ({ robot' with filter := robot'.filter.reset (some state) } :
          Robot ℝ).FiltersJointsFrom robot'.profile (1 / robot'.controlHz) start :=
        ⟨rfl, (robot'.filter.reset_p _ _ _).trans paced.profile,
          (robot'.filter.reset_dt _ _ _).trans paced.step, congrArg some stands⟩
      change wp _ (jointTicks (robot'.jointInterpolator _ state.q).setpoints result) _ _ _
      rw [stands, moveChunk_setpoints (full.trans fit.symm) jointed]
      apply wp_mono (jointTicks_speedGuarded sized _ result filters full
        (jointWalk_lengths full fit _) fine)
      intro out robot'' s'' _
      cases out with
      | error e => trivial
      | ok result' =>
          rw [afterStep_ok]
          apply wp_guardedRead _ (fun _ => trivial)
          intro final _
          apply wp_mono (wp_unstreamed ((uses_returnResult _ _).mono
            fun _ => Op.IsCartesian.unstreamed) _ _)
          intro _ _ _ _
          trivial

theorem executeJointChunk_speedGuarded (paced : robot.Paced) (sized : robot.profile.SizedFor m)
    (full : start.length = m) (fit : target.length = m) (jointed : start ≠ [])
    (fine : robot.profile.StopsAlways ∨
      FollowedWithin (maxJointStep robot.profile (1 / robot.controlHz)) step start
        (moveGoals robot.profile robot.controlHz w start target)) (name : String) :
    wp (speedGuard step)
      (executeJointChunk (moveChunk target (max 1 (excursion start target / w)) name) false)
      (fun _ _ _ => True) robot ⟨start, false⟩ := by
  unfold executeJointChunk
  apply wp_guardedLease
  unfold cancelIsSet
  rw [wp_bind, wp_op]
  refine ⟨trivial, fun set _ => ?_⟩
  rw [afterStep_ok]
  split
  · apply wp_mono (wp_unstreamed ((uses_abortAtEntry false).mono
      fun _ => Op.IsCartesian.unstreamed) _ _)
    intro _ _ _ _
    trivial
  · exact runJointChunk_speedGuarded paced sized full fit jointed fine name

theorem moveJoint_speedGuarded (paced : robot.Paced) (sized : robot.profile.SizedFor m)
    (full : start.length = m) (fit : target.length = m) (positive : 0 < w)
    (fine : robot.profile.StopsAlways ∨
      FollowedWithin (maxJointStep robot.profile (1 / robot.controlHz)) step start
        (moveGoals robot.profile robot.controlHz w start target)) (realtime : Bool) :
    wp (speedGuard step) (moveJoint target none (some w) realtime) (fun _ _ _ => True) robot
      ⟨start, false⟩ := by
  unfold moveJoint
  apply wp_guardedLease
  apply wp_guardedRead _ (fun _ => trivial)
  intro state standing
  rw [wp_bind, wp_attempt, standing rfl]
  by_cases jointed : start = []
  · -- no joints: the excursion of nothing raises
    have nowhere : target = [] := by
      rw [← List.length_eq_zero_iff, fit, ← full, jointed, List.length_nil]
    have raises : ∃ e, jointMoveDuration start target none (some w) = .error e := by
      unfold jointMoveDuration
      dsimp only
      rw [if_pos positive, jointed, nowhere]
      exact ⟨_, rfl⟩
    obtain ⟨e, raises⟩ := raises
    rw [raises]
    trivial
  · rw [jointMoveDuration_speed (full.trans fit.symm) jointed positive, afterStep_ok, wp_bind]
    unfold startJointImpedance
    rw [wp_backend]
    refine ⟨trivial, fun answer _ => ?_⟩
    cases answer with
    | error e => trivial
    | ok done =>
        rw [afterStep_ok, wp_bind, wp_get, afterStep_ok]
        exact executeJointChunk_speedGuarded paced sized full fit jointed fine _

noncomputable def standingAt (q : List ℝ) : RobotState ℝ where
  stamp := 0
  q := q
  controlMode := .nrtJointImpedance

theorem standingAt_light {p : SafetyProfile ℝ} (light : ¬ p.StopsAlways) (q : List ℝ) :
    exceeds (standingAt q).wrench p.maxContactWrench = false := by
  rw [Bool.eq_false_iff, ne_eq, exceeds_real]
  rintro ⟨axis, heavy⟩
  change p.maxContactWrench axis < |0| at heavy
  rw [abs_zero] at heavy
  exact light ⟨axis, heavy⟩

theorem jointTicks_shown {p : SafetyProfile ℝ} {dt : ℝ} (step : ℝ) (sized : p.SizedFor m)
    (light : ¬ p.StopsAlways) (goals : List (List ℝ)) :
    ∀ {ref : List ℝ} {robot : Robot ℝ} (moving : Bool) (q : List ℝ) (result : ExecutionResult ℝ),
      robot.FiltersJointsFrom p dt ref → ref.length = m → (∀ goal ∈ goals, goal.length = m) →
      (moving = false → q = ref) →
      ∃ calls, (∃ left, Trace (jointTicks (goals.map Except.ok) result robot) calls left) ∧
        (speedGuard step).Admitted ⟨ref, moving⟩ calls ∧
        ((speedGuard step).Allowed ⟨ref, moving⟩ calls →
          FollowedWithin (maxJointStep p dt) step ref (goals.map p.limited)) := by
  induction goals with
  | nil => exact fun _ _ _ _ _ _ _ => ⟨[], ⟨_, .nil _⟩, trivial, fun _ => trivial⟩
  | cons goal rest ih =>
      intro ref robot moving q result filters full sizes standing
      obtain ⟨active, sameProfile, sameStep, at_ref⟩ := filters
      rw [List.forall_mem_cons] at sizes
      obtain ⟨sr, passed, ok, found⟩ := SafetyFilter.filterJoint_follows (by rwa [sameProfile])
        at_ref full sizes.1 (standingAt q)
      have reading : exceeds (standingAt q).wrench robot.profile.maxContactWrench = false := by
        rw [active]
        exact standingAt_light light q
      have passed' : robot.filter.filterJoint goal (standingAt q) = .ok (sr, { robot.filter with
          prevQ := some (follow (maxJointStep p dt) ref (p.limited goal)) }) := by
        rw [← sameProfile, ← sameStep]
        exact passed
      rw [sameProfile, sameStep] at found
      have now := jointTick_clear result reading passed' ok found
      have filters' : ({ robot with filter := { robot.filter with
          prevQ := some (follow (maxJointStep p dt) ref (p.limited goal)) } } :
            Robot ℝ).FiltersJointsFrom p dt (follow (maxJointStep p dt) ref (p.limited goal)) :=
        ⟨active, sameProfile, sameStep, rfl⟩
      have limited := (limitedJoints_limited sized sizes.1).2
      have still := (follow_length (maxJointStep p dt) (full.trans limited.symm)).trans limited
      obtain ⟨calls, ⟨left, later⟩, admitted, shows⟩ := ih true q
        (if sr.clipped then { result with clipped := true } else result)
        filters' still sizes.2 (fun impossible => by cases impossible)
      refine ⟨_, ⟨left, jointTicks_clear now later⟩, ?_, ?_⟩
      · rw [Monitor.admitted_append]
        exact ⟨⟨trivial, standing, trivial, trivial, trivial, trivial⟩, admitted⟩
      · intro allowed
        rw [Monitor.allowed_append] at allowed
        obtain ⟨⟨_, _, _, _, near, _⟩, after⟩ := allowed
        exact ⟨near, shows after⟩

noncomputable def moveOpening (realtime : Bool) (start : List ℝ) : List (Call (effects ℝ)) :=
  [⟨.facadeOwner, some ""⟩, ⟨.readState, .ok (standingAt start)⟩,
    ⟨.publishState (standingAt start), ()⟩,
    ⟨.write (jointImpedanceCall none realtime), .ok ()⟩, ⟨.facadeOwner, some ""⟩,
    ⟨.cancelIsSet .entry, false⟩, ⟨.readState, .ok (standingAt start)⟩,
    ⟨.publishState (standingAt start), ()⟩, ⟨.perfCounter, (0 : ℝ)⟩]

theorem moveOpening_admitted (step : ℝ) (realtime : Bool) (start : List ℝ) :
    (speedGuard step).Admitted ⟨start, false⟩ (moveOpening realtime start) ∧
      (speedGuard step).run ⟨start, false⟩ (moveOpening realtime start) = ⟨start, false⟩ := by
  refine ⟨⟨trivial, fun _ => rfl, trivial, trivial, trivial, trivial, fun _ => rfl, trivial,
    trivial, trivial⟩, rfl⟩

theorem moveJoint_shown (step : ℝ) (paced : robot.Paced) (sized : robot.profile.SizedFor m)
    (full : start.length = m) (fit : target.length = m) (jointed : start ≠ []) (positive : 0 < w)
    (light : ¬ robot.profile.StopsAlways) (realtime : Bool) :
    ∃ calls, (∃ left, Trace (moveJoint target none (some w) realtime robot) calls left) ∧
      (speedGuard step).Admitted ⟨start, false⟩ calls ∧
      ((speedGuard step).Allowed ⟨start, false⟩ calls →
        FollowedWithin (maxJointStep robot.profile (1 / robot.controlHz)) step start
          (moveGoals robot.profile robot.controlHz w start target)) := by
  have same := full.trans fit.symm
  let chunk := moveChunk target (max 1 (excursion start target / w)) robot.profile.name
  have reset : ({ robot with filter := robot.filter.reset (some (standingAt start)) } :
      Robot ℝ).FiltersJointsFrom robot.profile (1 / robot.controlHz) start :=
    ⟨rfl, (robot.filter.reset_p _ _ _).trans paced.profile,
      (robot.filter.reset_dt _ _ _).trans paced.step, rfl⟩
  have verified := verifyChunkProfile_trace (Or.inr (show chunk.safetyProfile = robot.profile.name
    from rfl)) ({} : ExecutionResult ℝ)
  obtain ⟨ticks, ⟨left, ran⟩, admitted, shows⟩ := jointTicks_shown step sized light
    (jointWalk start target (moveTicks robot.profile robot.controlHz w start target)) false start
    (chunk.report robot) reset full (jointWalk_lengths full fit _) (fun _ => rfl)
  rw [← moveChunk_setpoints same jointed robot robot.profile.name] at ran
  have checked : Trace (checkLease robot) [⟨.facadeOwner, some ""⟩] (.done (.ok (), robot)) :=
    .cons (.nil _)
  have timed : Trace ((attempt (jointMoveDuration (standingAt start).q target none (some w)) :
      RobotM ℝ ℝ) robot) [] (.done (.ok (max 1 (excursion start target / w)), robot)) := by
    change Trace ((attempt (jointMoveDuration start target none (some w)) : RobotM ℝ ℝ) robot) _ _
    rw [jointMoveDuration_speed same jointed positive]
    exact .nil _
  have started : Trace (startJointImpedance none realtime robot)
      [⟨.write (jointImpedanceCall none realtime), .ok ()⟩] (.done (.ok (), robot)) :=
    .cons (.nil _)
  have entered : Trace (executeJointChunk chunk false robot)
      [⟨.facadeOwner, some ""⟩, ⟨.cancelIsSet .entry, false⟩]
      (runJointChunk chunk false robot) := .cons (.cons (.nil _))
  have begun : Trace (ensureJointStart (chunk.report robot) robot)
      [⟨.readState, .ok (standingAt start)⟩, ⟨.publishState (standingAt start), ()⟩]
      (.done (.ok (standingAt start, chunk.report robot), robot)) := by
    rw [← List.append_nil [_, _]]
    exact Script.trace_then (getState_trace robot (standingAt start)) (.nil _)
  let anchored : Robot ℝ := { robot with filter := robot.filter.reset (some (standingAt start)) }
  have clocked : Trace (perfCounter anchored) [⟨.perfCounter, (0 : ℝ)⟩]
      (.done (.ok (0 : ℝ), anchored)) := .cons (.nil _)
  have anchors : Trace (resetFilter (standingAt start) robot) [] (.done (.ok ⟨⟩, anchored)) :=
    .nil _
  obtain ⟨left, inside⟩ := Script.trace_within (fun result => do
    let final ← getState
    returnResult { result with finalState := some final } false) ⟨left, ran⟩
  have rest : Trace (runJointChunk chunk false robot)
      ([⟨.readState, .ok (standingAt start)⟩, ⟨.publishState (standingAt start), ()⟩] ++
        ([⟨.perfCounter, (0 : ℝ)⟩] ++ ticks)) left :=
    Script.trace_silent verified (Script.trace_then begun (Script.trace_silent anchors
      (Script.trace_silent (x := get) (.nil _) (Script.trace_then clocked inside))))
  have whole : Trace (moveJoint target none (some w) realtime robot)
      (moveOpening realtime start ++ ticks) left := by
    have sequence : Trace (moveJoint target none (some w) realtime robot) _ left :=
      Script.trace_then checked (Script.trace_then (getState_trace robot (standingAt start))
        (Script.trace_silent timed (Script.trace_then started
          (Script.trace_silent (x := get) (.nil _) (entered.append rest)))))
    exact sequence
  obtain ⟨opening, stays⟩ := moveOpening_admitted step realtime start
  refine ⟨_, ⟨left, whole⟩, ?_, ?_⟩
  · rw [Monitor.admitted_append, stays]
    exact ⟨opening, admitted⟩
  · intro allowed
    rw [Monitor.allowed_append, stays] at allowed
    exact shows allowed.2

/-! ### The three ways to move -/

/-- The joint moves that take a speed. -/
inductive JointEntry where
  | moveJoint (target : List ℝ) (realtime : Bool)
  | home (q : Option (List ℝ))
  | homeStage (qHome : Option (List ℝ)) (log : Log ℝ)

noncomputable def JointEntry.run (w : ℝ) : JointEntry → RobotM ℝ Unit
  | .moveJoint target realtime => do
      let _ ← FlexivControl.moveJoint target none (some w) realtime
      pure ()
  | .home q => FlexivControl.home q (some w) none
  | .homeStage qHome log => do
      let _ ← FlexivControl.homeStage qHome w log
      pure ()

def JointEntry.goal (robot : Robot ℝ) : JointEntry → List ℝ
  | .moveJoint target _ => target
  | .home q => q.getD robot.cfg.qHome
  | .homeStage qHome _ => qHome.getD robot.cfg.qHome

theorem vendorHome_asked (qHome : List ℝ) (q : Option (List ℝ)) (w : ℝ) :
    vendorHome qHome (q.isSome || (none : Option ℝ).isSome || (some w).isSome) =
      throw ⟨.notImplementedError, ""⟩ := by
  rw [Option.isSome_some, Bool.or_true]
  rfl

theorem JointEntry.run_speedGuarded (paced : robot.Paced) (sized : robot.profile.SizedFor m)
    (full : start.length = m) (positive : 0 < w) (entry : JointEntry)
    (fit : (entry.goal robot).length = m)
    (fine : robot.profile.StopsAlways ∨
      FollowedWithin (maxJointStep robot.profile (1 / robot.controlHz)) step start
        (moveGoals robot.profile robot.controlHz w start (entry.goal robot))) :
    wp (speedGuard step) (entry.run w) (fun _ _ _ => True) robot ⟨start, false⟩ := by
  cases entry with
  | moveJoint target realtime =>
      unfold run
      dsimp only
      rw [wp_bind]
      apply wp_mono (moveJoint_speedGuarded paced sized full fit positive fine realtime)
      intro out _ _ _
      cases out <;> trivial
  | home q =>
      unfold run FlexivControl.home
      dsimp only
      apply wp_guardedLease
      rw [wp_bind, wp_get, afterStep_ok, wp_bind, wp_tryCatch, vendorHome_asked, wp_throw,
        afterStep_error, if_pos rfl, wp_bind, Option.getD_some]
      apply wp_mono (moveJoint_speedGuarded paced sized full fit positive fine false)
      intro out robot' s' _
      cases out with
      | error e => trivial
      | ok result =>
          rw [afterStep_ok, wp_pure, afterStep_ok]
          apply wp_mono (wp_unstreamed ((uses_homeGripper _).mono
            fun _ => Op.IsCartesian.unstreamed) _ _)
          intro _ _ _ _
          trivial
  | homeStage qHome log =>
      unfold run FlexivControl.homeStage
      dsimp only
      rw [wp_bind, wp_bind, wp_get, afterStep_ok, wp_bind]
      apply wp_mono (moveJoint_speedGuarded paced sized full fit positive fine false)
      intro out _ _ _
      cases out <;> trivial

theorem JointEntry.run_shown (step : ℝ) (paced : robot.Paced) (sized : robot.profile.SizedFor m)
    (full : start.length = m) (jointed : start ≠ []) (positive : 0 < w)
    (light : ¬ robot.profile.StopsAlways) (entry : JointEntry)
    (fit : (entry.goal robot).length = m) :
    ∃ calls, (∃ left, Trace (entry.run w robot) calls left) ∧
      (speedGuard step).Admitted ⟨start, false⟩ calls ∧
      ((speedGuard step).Allowed ⟨start, false⟩ calls →
        FollowedWithin (maxJointStep robot.profile (1 / robot.controlHz)) step start
          (moveGoals robot.profile robot.controlHz w start (entry.goal robot))) := by
  cases entry with
  | moveJoint target realtime =>
      obtain ⟨calls, ran, shown⟩ :=
        moveJoint_shown step paced sized full fit jointed positive light realtime
      exact ⟨calls, Script.trace_within _ ran, shown⟩
  | home q =>
      obtain ⟨calls, ran, admitted, shows⟩ :=
        moveJoint_shown step paced sized full fit jointed positive light false
      have checked : Trace (checkLease robot) [⟨.facadeOwner, some ""⟩] (.done (.ok (), robot)) :=
        .cons (.nil _)
      obtain ⟨left, moved⟩ := Script.trace_within (fun _ : ExecutionResult ℝ => pure ()) ran
      have recovered : Trace ((tryCatch (vendorHome (q.getD robot.cfg.qHome)
          (q.isSome || (none : Option ℝ).isSome || (some w).isSome)) (fun e => do
            if e.kind = .notImplementedError then
              let _ ← FlexivControl.moveJoint (q.getD robot.cfg.qHome) none
                (some ((some w).getD (Scalar.ofRat (3 / 10))))
              pure ()
            else throw e) : RobotM ℝ Unit) robot) calls left := by
        rw [vendorHome_asked]
        exact moved
      obtain ⟨left, within⟩ := Script.trace_within
        (fun _ => homeGripper robot.cfg.gripperHomeWidth) ⟨left, recovered⟩
      refine ⟨⟨.facadeOwner, some ""⟩ :: calls, ⟨left, ?_⟩, ⟨trivial, admitted⟩, ?_⟩
      · exact Script.trace_then checked (Script.trace_silent (x := get) (.nil _) within)
      · exact fun allowed => shows allowed.2
  | homeStage qHome log =>
      obtain ⟨calls, ran, shown⟩ :=
        moveJoint_shown step paced sized full fit jointed positive light false
      obtain ⟨left, moved⟩ := Script.trace_within
        (fun result => (pure (result.update log) : RobotM ℝ (ExecutionResult ℝ))) ran
      have staged : Trace (FlexivControl.homeStage qHome w log robot) calls left :=
        Script.trace_silent (x := get) (.nil _) moved
      exact ⟨calls, Script.trace_within _ ⟨left, staged⟩, shown⟩

end Moves

/-! ### Which moves are slow enough -/

section Slow

variable {cap step : ℝ} {start target : List ℝ}

theorem limited_of_contains {p : SafetyProfile ℝ} {q : List ℝ} (inside : p.ContainsJoints q) :
    p.limited q = q := by
  unfold SafetyProfile.limited SafetyProfile.limitedJoints
  rw [inside.clip]
  change (do let inside ← allcloseJoints q q; _ : Except Exc (List ℝ)).toOption.getD q = q
  rw [allcloseJoints_self]
  rfl

theorem along_gap (a b : ℝ) (n k : ℕ) :
    along a b n (k + 1) - along a b n k = (ease ((k + 1 : ℕ) / n) - ease (k / n)) * (b - a) := by
  rw [along, along, add_sub_add_left_eq_sub, ← sub_smul, smul_eq_mul]

theorem unhurried_joint (cap step : ℝ) {n : ℕ} (positive : 0 < n) (a b : ℝ) :
    (∀ k < n, |along a b n (k + 1) - along a b n k| ≤ step ∧
      (cap < 0 → along a b n (k + 1) = along a b n k)) ↔
      |b - a| * peakTick n ≤ step ∧ (cap < 0 → b = a) := by
  have peak := peakTick_pos positive
  obtain ⟨top, inside, longest⟩ := exists_ease_tick_peak positive
  have gap (k : ℕ) (before : k < n) : |along a b n (k + 1) - along a b n k| =
      |b - a| * (ease ((k + 1 : ℕ) / n) - ease (k / n)) := by
    rw [along_gap, abs_mul, abs_of_nonneg (ease_tick_nonneg before), mul_comm]
  constructor
  · intro short
    obtain ⟨near, still⟩ := short top inside
    rw [gap top inside, longest] at near
    refine ⟨near, ?_⟩
    intro negative
    have none := along_gap a b n top
    rw [still negative, sub_self, longest] at none
    rcases mul_eq_zero.mp none.symm with flat | same
    · exact absurd flat peak.ne'
    · exact sub_eq_zero.mp same
  · rintro ⟨near, still⟩ k before
    constructor
    · rw [gap k before]
      exact (mul_le_mul_of_nonneg_left (ease_tick_le_peak before) (abs_nonneg _)).trans near
    · intro negative
      rw [still negative]
      exact sub_eq_zero.mp (by rw [along_gap, sub_self, mul_zero])

theorem unhurried_walk {n : ℕ} (positive : 0 < n) : ∀ {start target : List ℝ},
    start.length = target.length →
      ((∀ k < n, Unhurried cap step (alongJoints start target n k)
          (alongJoints start target n (k + 1))) ↔
        List.Forall₂ (fun a b => |b - a| * peakTick n ≤ step ∧ (cap < 0 → b = a)) start target)
  | [], [], _ => iff_of_true (fun _ _ => .nil) .nil
  | a :: start, b :: target, same => by
      have joint := unhurried_joint cap step positive a b
      have others := unhurried_walk positive (Nat.succ.inj same)
      constructor
      · intro slow
        refine .cons (joint.mp ?_) (others.mp ?_)
        · intro k before
          cases slow k before with
          | cons head _ => exact head
        · intro k before
          cases slow k before with
          | cons _ rest => exact rest
      · intro short k before
        cases short with
        | cons head rest => exact .cons (joint.mpr head k before) (others.mpr rest k before)

theorem maxAbs_attained {xs : List ℝ} {top : ℝ} (largest : maxAbs xs = .ok top) :
    ∃ x ∈ xs, |x| = top := by
  have attained (rest : List ℝ) : ∀ first : ℝ, rest.foldl Scalar.maximum first = first ∨
      rest.foldl Scalar.maximum first ∈ rest := by
    induction rest with
    | nil => exact fun first => Or.inl rfl
    | cons y rest ih =>
        intro first
        change rest.foldl Scalar.maximum (max first y) = first ∨
          rest.foldl Scalar.maximum (max first y) ∈ _
        rcases ih (max first y) with same | later
        · rw [same]
          rcases max_choice first y with left | right
          · exact Or.inl left
          · rw [right]
            exact Or.inr List.mem_cons_self
        · exact Or.inr (List.mem_cons_of_mem _ later)
  cases xs with
  | nil => cases largest
  | cons x rest =>
      have answer : (rest.map Scalar.abs).foldl Scalar.maximum (Scalar.abs x) = top := by
        rw [← Except.ok.injEq (ε := Exc)]
        exact largest
      rcases attained (rest.map Scalar.abs) (Scalar.abs x) with same | later
      · refine ⟨x, List.mem_cons_self, ?_⟩
        rw [← answer, same, Scalar.abs_real]
      · rw [answer] at later
        obtain ⟨y, member, found⟩ := List.mem_map.mp later
        exact ⟨y, List.mem_cons_of_mem _ member, by rw [← found, Scalar.abs_real]⟩

theorem forall₂_gap {R : ℝ → Prop} : ∀ {start target : List ℝ}, start.length = target.length →
    (List.Forall₂ (fun a b => R (b - a)) start target ↔
      ∀ x ∈ List.zipWith (· - ·) target start, R x)
  | [], [], _ => by
      refine iff_of_true .nil ?_
      intro x none
      cases none
  | a :: start, b :: target, same => by
      rw [List.forall₂_cons, forall₂_gap (Nat.succ.inj same), List.zipWith_cons_cons,
        List.forall_mem_cons]

theorem forall₂_excursion (same : start.length = target.length) (jointed : start ≠ []) {peak : ℝ}
    (positive : 0 < peak) :
    List.Forall₂ (fun a b => |b - a| * peak ≤ step ∧ (cap < 0 → b = a)) start target ↔
      excursion start target * peak ≤ step ∧ (cap < 0 → excursion start target = 0) := by
  have gaps : List.Forall₂ (fun a b => |b - a| * peak ≤ step ∧ (cap < 0 → b = a)) start target ↔
      ∀ x ∈ List.zipWith (· - ·) target start, |x| * peak ≤ step ∧ (cap < 0 → x = 0) := by
    rw [← forall₂_gap (R := fun x => |x| * peak ≤ step ∧ (cap < 0 → x = 0)) same]
    simp only [sub_eq_zero]
  obtain ⟨largest, within⟩ := excursion_spec same jointed
  obtain ⟨top, member, longest⟩ := maxAbs_attained largest
  have bounded : ∀ x ∈ List.zipWith (· - ·) target start, |x| ≤ excursion start target :=
    (forall₂_gap (R := fun x => |x| ≤ excursion start target) same).mp within
  rw [gaps]
  constructor
  · intro short
    rw [← longest, abs_eq_zero]
    exact short top member
  · rintro ⟨short, still⟩ x inside
    constructor
    · exact (mul_le_mul_of_nonneg_right (bounded x inside) positive.le).trans short
    · intro negative
      exact abs_nonpos_iff.mp ((bounded x inside).trans (still negative).le)

noncomputable def movePath (p : SafetyProfile ℝ) (hz w : ℝ) (start target : List ℝ) :
    List (List ℝ) :=
  start :: moveGoals p hz w start target

theorem movePath_unhurried {p : SafetyProfile ℝ} {hz w : ℝ} (from_inside : p.ContainsJoints start)
    (to_inside : p.ContainsJoints target) (same : start.length = target.length)
    (jointed : start ≠ []) :
    (movePath p hz w start target).IsChain (Unhurried cap step) ↔
      excursion start target * peakTick (moveTicks p hz w start target) ≤ step ∧
        (cap < 0 → excursion start target = 0) := by
  have positive := moveTicks_pos p hz w start target
  have goals : moveGoals p hz w start target =
      jointWalk start target (moveTicks p hz w start target) := by
    refine (List.map_congr_left ?_).trans (List.map_id _)
    intro q member
    obtain ⟨k, _, rfl⟩ := List.mem_map.mp member
    exact limited_of_contains (alongJoints_contained from_inside to_inside _ _)
  have within := (excursion_spec same jointed).2
  rw [movePath, goals, cons_jointWalk within, List.isChain_map, List.isChain_range_succ,
    unhurried_walk positive same, forall₂_excursion same jointed (peakTick_pos positive)]

/-- When a move keeps under `w`: nothing is commanded, or the profile's cap is no faster, or no
tick of the eased segment is longer than `w / hz`. Inside the limits that is its longest tick;
outside them the clipping counts too. -/
def SlowEnough (p : SafetyProfile ℝ) (hz w : ℝ) (start target : List ℝ) : Prop :=
  p.StopsAlways ∨ |Scalar.ofNat 2 * p.maxJointSpeedScale| ≤ w ∨
    (p.ContainsJoints start ∧ p.ContainsJoints target ∧
      excursion start target * peakTick (moveTicks p hz w start target) ≤ w / hz ∧
      (p.maxJointSpeedScale < 0 → excursion start target = 0)) ∨
    (¬ (p.ContainsJoints start ∧ p.ContainsJoints target) ∧
      (movePath p hz w start target).IsChain (Unhurried (maxJointStep p (1 / hz)) (w / hz)))

theorem moveGoals_lengths {p : SafetyProfile ℝ} {m : ℕ} (sized : p.SizedFor m)
    (full : start.length = m) (fit : target.length = m) (hz w : ℝ) :
    ∀ goal ∈ moveGoals p hz w start target, goal.length = m := by
  intro goal member
  obtain ⟨q, walked, rfl⟩ := List.mem_map.mp member
  exact (limitedJoints_limited sized (jointWalk_lengths full fit _ q walked)).2

/-- What the commands of a move do under its filter, in terms of the move alone. -/
theorem slowEnough_iff {p : SafetyProfile ℝ} {m : ℕ} (sized : p.SizedFor m)
    (full : start.length = m) (fit : target.length = m) (jointed : start ≠ []) {hz w : ℝ}
    (ticking : 0 < hz) :
    SlowEnough p hz w start target ↔ p.StopsAlways ∨
      FollowedWithin (maxJointStep p (1 / hz)) (w / hz) start (moveGoals p hz w start target) := by
  have cap : |maxJointStep p (1 / hz)| = |Scalar.ofNat 2 * p.maxJointSpeedScale| / hz := by
    rw [maxJointStep, mul_one_div, abs_div, abs_of_pos ticking]
  have sizes := moveGoals_lengths sized full fit hz w
  have backwards : maxJointStep p (1 / hz) < 0 ↔ p.maxJointSpeedScale < 0 := by
    rw [maxJointStep, Scalar.ofNat_real, mul_one_div]
    push_cast
    constructor
    · intro negative
      by_contra forwards
      exact absurd negative (not_lt.mpr
        (div_nonneg (mul_nonneg zero_le_two (not_lt.mp forwards)) ticking.le))
    · intro negative
      exact div_neg_of_neg_of_pos (by linarith) ticking
  by_cases slow : |Scalar.ofNat 2 * p.maxJointSpeedScale| ≤ w
  · have follows : FollowedWithin (maxJointStep p (1 / hz)) (w / hz) start
        (moveGoals p hz w start target) := by
      apply followedWithin_of_slow _ _ full sizes
      rw [cap]
      exact div_le_div_of_nonneg_right slow ticking.le
    exact iff_of_true (Or.inr (Or.inl slow)) (Or.inr follows)
  · have fast : w / hz < |maxJointStep p (1 / hz)| := by
      rw [cap]
      exact div_lt_div_of_pos_right (not_le.mp slow) ticking
    unfold SlowEnough
    rw [followedWithin_iff fast _ full sizes]
    by_cases inside : p.ContainsJoints start ∧ p.ContainsJoints target
    · have path : (movePath p hz w start target).IsChain
          (Unhurried (maxJointStep p (1 / hz)) (w / hz)) ↔ _ :=
        movePath_unhurried inside.1 inside.2 (full.trans fit.symm) jointed
      rw [movePath, backwards] at path
      rw [path]
      tauto
    · rw [movePath]
      tauto

theorem followedWithin_nil (cap step : ℝ) (goals : List (List ℝ)) :
    FollowedWithin cap step [] goals := by
  induction goals with
  | nil => trivial
  | cons goal rest ih => exact ⟨.nil, ih⟩

theorem slowEnough_nil {p : SafetyProfile ℝ} (sized : p.SizedFor 0) {hz w : ℝ} (ticking : 0 < hz)
    (positive : 0 < w) : SlowEnough p hz w [] [] := by
  have inside : p.ContainsJoints [] := by
    have lower := List.length_eq_zero_iff.mp sized.lower
    have upper := List.length_eq_zero_iff.mp sized.upper
    refine ⟨?_, ?_⟩
    · rw [lower]
      exact .nil
    · rw [upper]
      exact .nil
  have none : excursion [] [] = 0 := rfl
  refine Or.inr (Or.inr (Or.inl ⟨inside, inside, ?_, fun _ => none⟩))
  rw [none, zero_mul]
  exact (div_pos positive ticking).le

end Slow

/-- From a start of as many joints as the limits name, in whatever order the arm is read,
stopped or faulted: a move keeps every joint's step under the speed asked for exactly when it
is slow enough. -/
theorem joint_speed_respected_iff {robot : Robot ℝ} (paced : robot.Paced) {m : ℕ}
    (sized : robot.profile.SizedFor m) {start : List ℝ} (full : start.length = m) {w : ℝ}
    (positive : 0 < w) (entry : JointEntry) (fit : (entry.goal robot).length = m) :
    (∀ calls left, Trace (entry.run w robot) calls left →
        (speedGuard (w / robot.controlHz)).Admitted ⟨start, false⟩ calls →
        (speedGuard (w / robot.controlHz)).Allowed ⟨start, false⟩ calls) ↔
      SlowEnough robot.profile robot.controlHz w start (entry.goal robot) := by
  by_cases jointed : start = []
  · subst jointed
    cases full
    have nowhere : entry.goal robot = [] := List.length_eq_zero_iff.mp fit
    rw [nowhere]
    refine iff_of_true ?_ (slowEnough_nil sized paced.ticking positive)
    intro calls left ran admitted
    exact Program.wp_allowed (entry.run_speedGuarded paced sized rfl positive fit
      (Or.inr (followedWithin_nil _ _ _))) ran admitted
  · rw [slowEnough_iff sized full fit jointed paced.ticking]
    constructor
    · intro respected
      by_cases light : robot.profile.StopsAlways
      · exact Or.inl light
      · obtain ⟨calls, ⟨left, ran⟩, admitted, shows⟩ := entry.run_shown (w / robot.controlHz) paced
          sized full jointed positive light fit
        exact Or.inr (shows (respected calls left ran admitted))
    · intro fine calls left ran admitted
      exact Program.wp_allowed (entry.run_speedGuarded paced sized full positive fit fine) ran
        admitted

theorem excursion_uniform (a b : ℝ) : excursion (uniform a) (uniform b) = |b - a| := by
  have gaps : List.zipWith (· - ·) (uniform b) (uniform a) = uniform (b - a) := rfl
  rw [excursion, gaps, maxAbs_uniform]
  rfl

theorem uniform_contained {t : ℝ} (low : -1 ≤ t) (high : t ≤ 1) :
    tabletop.ContainsJoints (uniform t) where
  lower := by
    simp only [uniform, tabletop, List.replicate, List.map_cons, List.map_nil,
      List.forall₂_cons, Scalar.ofRat_real, List.Forall₂.nil, and_true]
    refine ⟨?_, ?_, ?_, ?_, ?_, ?_, ?_⟩ <;> push_cast <;> linarith
  upper := by
    simp only [uniform, tabletop, List.replicate, List.map_cons, List.map_nil,
      List.forall₂_cons, Scalar.ofRat_real, List.Forall₂.nil, and_true]
    refine ⟨?_, ?_, ?_, ?_, ?_, ?_, ?_⟩ <;> push_cast <;> linarith

theorem tabletopRobot_rate : tabletopRobot.controlHz = 100 := by
  change (if (0 : ℝ) < 100 ∨ (100 : ℝ) < 0 then 100 else _) = (100 : ℝ)
  rw [if_pos (Or.inl (by norm_num))]

theorem tabletopRobot_sized : tabletopRobot.profile.SizedFor 7 := ⟨rfl, rfl⟩

/-- A tenth of a radian, asked for at three tenths of a radian a second, takes a second. -/
theorem short_move_slowEnough :
    SlowEnough tabletop 100 (3 / 10) (uniform 0) (uniform (1 / 10)) := by
  have inside := uniform_contained (t := 0) (by norm_num) (by norm_num)
  have reached := uniform_contained (t := 1 / 10) (by norm_num) (by norm_num)
  have far : excursion (uniform 0) (uniform (1 / 10)) = 1 / 10 := by
    rw [excursion_uniform, sub_zero, abs_of_pos (by norm_num)]
  have many : (100 : ℝ) ≤ moveTicks tabletop 100 (3 / 10) (uniform 0) (uniform (1 / 10)) := by
    have second : requestedTicks (max 1 (1 / 10 / (3 / 10)) : ℝ) 100 = 100 := by
      rw [requestedTicks_whole (n := 100) (by norm_num)]
      rfl
    have least : 100 ≤ moveTicks tabletop 100 (3 / 10) (uniform 0) (uniform (1 / 10)) := by
      unfold moveTicks
      rw [far, second]
      omega
    exact_mod_cast least
  refine Or.inr (Or.inr (Or.inl ⟨inside, reached, ?_, ?_⟩))
  · have peak := peakTick_le
      (moveTicks_pos tabletop 100 (3 / 10) (uniform 0) (uniform (1 / 10)))
    rw [far]
    have short : Real.pi / 2 / moveTicks tabletop 100 (3 / 10) (uniform 0) (uniform (1 / 10)) ≤
        2 / 100 := by
      rw [div_le_iff₀ (by linarith)]
      nlinarith [Real.pi_le_four]
    linarith
  · intro negative
    exact absurd negative (by norm_num [tabletop])

theorem joint_speed_respected_iff_short_move :
    ((uniform 0).length = 7 ∧ (0 : ℝ) < 3 / 10 ∧ (uniform (1 / 10)).length = 7) ∧
      ∀ calls left, Trace ((JointEntry.moveJoint (uniform (1 / 10)) false).run (3 / 10)
          tabletopRobot) calls left →
        (speedGuard (3 / 10 / tabletopRobot.controlHz)).Admitted ⟨uniform 0, false⟩ calls →
        (speedGuard (3 / 10 / tabletopRobot.controlHz)).Allowed ⟨uniform 0, false⟩ calls := by
  refine ⟨⟨rfl, by norm_num, rfl⟩, ?_⟩
  have slow : SlowEnough tabletopRobot.profile tabletopRobot.controlHz (3 / 10) (uniform 0)
      ((JointEntry.moveJoint (uniform (1 / 10)) false).goal tabletopRobot) := by
    rw [tabletopRobot_rate]
    exact short_move_slowEnough
  exact (joint_speed_respected_iff tabletopRobot_paced tabletopRobot_sized rfl (by norm_num)
    (.moveJoint (uniform (1 / 10)) false) rfl).mpr slow

/-- Three fifths of a radian at three tenths of a radian a second take two seconds, and the
middle ticks are longer than three thousandths. -/
theorem long_move_tooFast : ¬ SlowEnough tabletop 100 (3 / 10) (uniform 0) (uniform (3 / 5)) := by
  have inside := uniform_contained (t := 0) (by norm_num) (by norm_num)
  have reached := uniform_contained (t := 3 / 5) (by norm_num) (by norm_num)
  have far : excursion (uniform 0) (uniform (3 / 5)) = 3 / 5 := by
    rw [excursion_uniform, sub_zero, abs_of_pos (by norm_num)]
  have ticks : moveTicks tabletop 100 (3 / 10) (uniform 0) (uniform (3 / 5)) = 200 := by
    have asked : requestedTicks (max 1 (3 / 5 / (3 / 10)) : ℝ) 100 = 200 := by
      rw [requestedTicks_whole (n := 200) (by norm_num)]
      rfl
    have stretched : cappedTicks (some (Scalar.ofNat 2 * tabletop.maxJointSpeedScale)) (1 / 100)
        (3 / 5) ≤ 200 := by
      unfold cappedTicks blendPeak
      dsimp only
      rw [if_pos (by norm_num [tabletop]), Scalar.ceil_real, Int.ceil_le]
      norm_num [tabletop]
      change Real.pi / 2 * (3 / 5) / (3 / 500) ≤ 200
      linarith [Real.pi_le_four]
    unfold moveTicks
    rw [far, asked, max_eq_left stretched]
    rfl
  rintro (⟨axis, negative⟩ | slow | ⟨_, _, short, _⟩ | ⟨outside, _⟩)
  · fin_cases axis <;> norm_num [tabletop] at negative
  · norm_num [tabletop] at slow
  · rw [far, ticks, peakTick, if_neg (by norm_num)] at short
    have bend : Real.pi / 200 - (Real.pi / 200) ^ 3 / 6 < Real.sin (Real.pi / 200) :=
      Real.sin_gt_sub_cube (by positivity)
    have small : (Real.pi / 200) ^ 3 ≤ (4 / 200) ^ 3 := by
      apply pow_le_pow_left₀ (by positivity)
      linarith [Real.pi_le_four]
    push_cast at short
    linarith [Real.pi_gt_three]
  · exact outside ⟨inside, reached⟩

theorem move_exceeds_speed :
    ¬ ∀ calls left, Trace ((JointEntry.moveJoint (uniform (3 / 5)) false).run (3 / 10)
        tabletopRobot) calls left →
      (speedGuard (3 / 10 / tabletopRobot.controlHz)).Admitted ⟨uniform 0, false⟩ calls →
      (speedGuard (3 / 10 / tabletopRobot.controlHz)).Allowed ⟨uniform 0, false⟩ calls := by
  intro respected
  have light : ¬ tabletopRobot.profile.StopsAlways :=
    fun stops => long_move_tooFast (Or.inl stops)
  obtain ⟨calls, ⟨left, ran⟩, admitted, shows⟩ := JointEntry.run_shown
    (3 / 10 / tabletopRobot.controlHz) tabletopRobot_paced tabletopRobot_sized
    (rfl : (uniform 0).length = 7) (List.cons_ne_nil _ _) (by norm_num : (0 : ℝ) < 3 / 10) light
    (.moveJoint (uniform (3 / 5)) false) rfl
  have followed := shows (respected calls left ran admitted)
  rw [tabletopRobot_rate] at followed
  apply long_move_tooFast
  exact (slowEnough_iff tabletopRobot_sized rfl rfl (List.cons_ne_nil _ _) (by norm_num)).mpr
    (Or.inr followed)

end FlexivControl
