/-
The joint filter on arrays of one length.

With limits, reference and target of as many entries as there are joints every step of the
filter combines like with like: it answers, and moves each joint by its own entry.
-/

import FlexivControl.Core.Safety

namespace FlexivControl

open Broadcast

variable {K : Type} [Scalar K] {n : Nat}

theorem broadcast_of {K : Type} {f : K → K → K} {xs ys zs : List K}
    (combined : map₂ f xs ys = some zs) : broadcast f xs ys = .ok zs := by
  unfold broadcast
  rw [combined]

theorem broadcast_apart {K : Type} {f : K → K → K} {xs ys : List K}
    (combined : map₂ f xs ys = none) : broadcast f xs ys = .error broadcastError := by
  unfold broadcast
  rw [combined]

/-- A profile with limits for `n` joints. -/
structure SafetyProfile.SizedFor (p : SafetyProfile K) (n : Nat) : Prop where
  lower : p.jointLower.length = n
  upper : p.jointUpper.length = n

structure SafetyFilter.SizedFor (f : SafetyFilter K) (n : Nat) : Prop where
  profile : f.p.SizedFor n
  previous : ∀ q, f.prevQ = some q → q.length = n

def IsGoal (p : SafetyProfile K) (sent lower upper goal : K) : Prop :=
  goal = sent ∨ goal = Scalar.clip sent (lower + p.jointMarginRad) (upper - p.jointMarginRad)

/-- Joint `i` goes to its goal, or a capped step towards it from where it was. -/
def MovesJoint (f : SafetyFilter K) (state : RobotState K) (sent : List K) (i : Nat) (c : K) : Prop :=
  ∃ t lower upper r goal, sent[i]? = some t ∧ f.p.jointLower[i]? = some lower ∧
    f.p.jointUpper[i]? = some upper ∧ (f.prevQ.getD state.q)[i]? = some r ∧
    IsGoal f.p t lower upper goal ∧
    (c = goal ∨ c = r + clampStep (maxJointStep f.p f.dt) (goal - r))

theorem clipJoints_sized {p : SafetyProfile K} (sized : p.SizedFor n) {sent : List K}
    (whole : sent.length = n) :
    ∃ clipped : List K, p.clipJoints sent = .ok clipped ∧ clipped.length = n ∧
      ∀ (i : Nat) (c : K), clipped[i]? = some c → ∃ t lower upper, sent[i]? = some t ∧
        p.jointLower[i]? = some lower ∧ p.jointUpper[i]? = some upper ∧
        c = Scalar.clip t (lower + p.jointMarginRad) (upper - p.jointMarginRad) := by
  have lowers : (p.jointLower.map (· + p.jointMarginRad)).length = n := by
    rw [List.length_map, sized.lower]
  have uppers : (p.jointUpper.map (· - p.jointMarginRad)).length = n := by
    rw [List.length_map, sized.upper]
  obtain ⟨raised, raising, still, raisedAt⟩ := map₂_same Scalar.maximum whole lowers
  obtain ⟨clipped, clipping, length, clippedAt⟩ := map₂_same Scalar.minimum still uppers
  refine ⟨clipped, ?_, length, ?_⟩
  · unfold SafetyProfile.clipJoints
    dsimp only
    rw [broadcast_of raising]
    exact broadcast_of clipping
  · intro i c found
    obtain ⟨r, hi, atRaised, atUpper, rfl⟩ := clippedAt i c found
    obtain ⟨t, lo, atSent, atLower, rfl⟩ := raisedAt i r atRaised
    rw [List.getElem?_map, Option.map_eq_some_iff] at atUpper atLower
    obtain ⟨upper, foundUpper, rfl⟩ := atUpper
    obtain ⟨lower, foundLower, rfl⟩ := atLower
    exact ⟨t, lower, upper, atSent, foundLower, foundUpper, rfl⟩

theorem limitedJoints_sized {p : SafetyProfile K} (sized : p.SizedFor n) {sent : List K}
    (whole : sent.length = n) :
    ∃ (clipped : List K) (inside : Bool), p.clipJoints sent = .ok clipped ∧
      allcloseJoints clipped sent = .ok inside ∧
      (if inside then sent else clipped).length = n ∧
      ∀ (i : Nat) (goal : K), (if inside then sent else clipped)[i]? = some goal →
        ∃ t lower upper, sent[i]? = some t ∧ p.jointLower[i]? = some lower ∧
          p.jointUpper[i]? = some upper ∧ IsGoal p t lower upper goal := by
  obtain ⟨clipped, clips, length, clippedAt⟩ := clipJoints_sized sized whole
  obtain ⟨closes, compared, _, _⟩ := map₂_same Scalar.close length whole
  have inside : allcloseJoints clipped sent = .ok (closes.all id) := by
    unfold allcloseJoints
    rw [compared]
  refine ⟨clipped, closes.all id, clips, inside, ?_, ?_⟩
  · split
    · exact whole
    · exact length
  · intro i goal found
    split at found
    · have bound : i < n := whole ▸ (List.getElem?_eq_some_iff.mp found).1
      obtain ⟨lower, atLower⟩ : ∃ lower, p.jointLower[i]? = some lower :=
        ⟨_, List.getElem?_eq_getElem (sized.lower ▸ bound)⟩
      obtain ⟨upper, atUpper⟩ : ∃ upper, p.jointUpper[i]? = some upper :=
        ⟨_, List.getElem?_eq_getElem (sized.upper ▸ bound)⟩
      exact ⟨goal, _, _, found, atLower, atUpper, Or.inl rfl⟩
    · obtain ⟨t, lower, upper, atSent, atLower, atUpper, same⟩ := clippedAt i goal found
      exact ⟨t, lower, upper, atSent, atLower, atUpper, Or.inr same⟩

theorem SafetyFilter.filterJoint_answers {f : SafetyFilter K} {state : RobotState K}
    {sent clipped step moved : List K} {inside : Bool} (clips : f.p.clipJoints sent = .ok clipped)
    (compared : allcloseJoints clipped sent = .ok inside)
    (stepped : broadcast (· - ·) (if inside then sent else clipped) (f.prevQ.getD state.q) = .ok step)
    (moving : broadcast (· + ·) (f.prevQ.getD state.q)
      (step.map (clampStep (maxJointStep f.p f.dt))) = .ok moved) :
    ∃ sr q, f.filterJoint sent state = .ok (sr, { f with prevQ := some q }) ∧ sr.q = some q ∧
      (q = moved ∨ q = if inside then sent else clipped) := by
  have answers (limited : List K) (reasons : List StopReason) (clip : Bool)
      (stepped : broadcast (· - ·) limited (f.prevQ.getD state.q) = .ok step) :
      ∃ sr q, (do
        let step ← broadcast (· - ·) limited (f.prevQ.getD state.q)
        if step.any (fun s => decide (maxJointStep f.p f.dt < Scalar.abs s)) then
          let q ← broadcast (· + ·) (f.prevQ.getD state.q)
            (step.map (clampStep (maxJointStep f.p f.dt)))
          pure ({ ok := true, q := some q, clipped := true
                  clipReasons := reasons ++ [.jointLimit] }, { f with prevQ := some q })
        else
          pure ({ ok := true, q := some limited, clipped := clip, clipReasons := reasons },
            { f with prevQ := some limited }) :
          Except Exc (SafetyResult K × SafetyFilter K)) = .ok (sr, { f with prevQ := some q }) ∧
        sr.q = some q ∧ (q = moved ∨ q = limited) := by
    rw [stepped]
    change ∃ sr q, (if step.any (fun s => decide (maxJointStep f.p f.dt < Scalar.abs s)) = true then
      _ else _ : Except Exc (SafetyResult K × SafetyFilter K)) = _ ∧ _
    split
    · rw [moving]
      exact ⟨_, moved, rfl, rfl, Or.inl rfl⟩
    · exact ⟨_, limited, rfl, rfl, Or.inr rfl⟩
  unfold SafetyFilter.filterJoint
  dsimp only
  rw [clips]
  change ∃ sr q, (do
    let inside ← allcloseJoints clipped sent
    _ : Except Exc (SafetyResult K × SafetyFilter K)) = _ ∧ _
  rw [compared]
  cases inside with
  | true => exact answers sent [] false stepped
  | false => exact answers clipped [.jointLimit] true stepped

theorem SafetyFilter.filterJoint_sized {f : SafetyFilter K} (sized : f.SizedFor n)
    {state : RobotState K} (measured : state.q.length = n) {sent : List K}
    (whole : sent.length = n) :
    ∃ (sr : SafetyResult K) (f' : SafetyFilter K) (q : List K),
      f.filterJoint sent state = .ok (sr, f') ∧ f'.SizedFor n ∧ sr.q = some q ∧
      ∀ (i : Nat) (c : K), q[i]? = some c → MovesJoint f state sent i c := by
  obtain ⟨clipped, inside, clips, compared, length, goals⟩ :=
    limitedJoints_sized sized.profile whole
  have reference : (f.prevQ.getD state.q).length = n := by
    cases held : f.prevQ with
    | none => exact measured
    | some q => exact sized.previous q held
  obtain ⟨step, stepped, steps, stepAt⟩ := map₂_same (· - ·) length reference
  have clamped : (step.map (clampStep (maxJointStep f.p f.dt))).length = n := by
    rw [List.length_map, steps]
  obtain ⟨moved, moving, moves, movedAt⟩ := map₂_same (· + ·) reference clamped
  have straight : ∀ (i : Nat) (c : K), (if inside then sent else clipped)[i]? = some c →
      MovesJoint f state sent i c := by
    intro i c found
    have bound : i < n := length ▸ (List.getElem?_eq_some_iff.mp found).1
    obtain ⟨t, lower, upper, atSent, atLower, atUpper, goal⟩ := goals i c found
    obtain ⟨r, atRef⟩ : ∃ r, (f.prevQ.getD state.q)[i]? = some r :=
      ⟨_, List.getElem?_eq_getElem (reference ▸ bound)⟩
    exact ⟨t, lower, upper, _, c, atSent, atLower, atUpper, atRef, goal, Or.inl rfl⟩
  have capped : ∀ (i : Nat) (c : K), moved[i]? = some c → MovesJoint f state sent i c := by
    intro i c found
    obtain ⟨r, s, atRef, atClamped, rfl⟩ := movedAt i c found
    rw [List.getElem?_map, Option.map_eq_some_iff] at atClamped
    obtain ⟨gap, atStep, rfl⟩ := atClamped
    obtain ⟨goal, r', atLimited, atRef', rfl⟩ := stepAt i gap atStep
    rw [atRef, Option.some.injEq] at atRef'
    subst atRef'
    obtain ⟨t, lower, upper, atSent, atLower, atUpper, isGoal⟩ := goals i goal atLimited
    exact ⟨t, lower, upper, r, goal, atSent, atLower, atUpper, atRef, isGoal, Or.inr rfl⟩
  have kept (q : List K) (entries : q.length = n) :
      ({ f with prevQ := some q } : SafetyFilter K).SizedFor n := by
    refine ⟨sized.profile, ?_⟩
    intro q' same
    cases same
    exact entries
  obtain ⟨sr, q, answered, found, taken⟩ := SafetyFilter.filterJoint_answers clips compared
    (broadcast_of stepped) (broadcast_of moving)
  refine ⟨sr, _, q, answered, ?_, found, ?_⟩
  · rcases taken with same | same
    · rw [same]
      exact kept moved moves
    · rw [same]
      exact kept _ length
  · rcases taken with same | same
    · rw [same]
      exact capped
    · rw [same]
      exact straight

theorem SafetyFilter.filterJoint_malformed {f : SafetyFilter K} (sized : f.p.SizedFor n)
    (state : RobotState K) {sent : List K} (other : sent.length ≠ n) (entries : sent.length ≠ 1)
    (several : n ≠ 1) : f.filterJoint sent state = .error broadcastError := by
  have lowers : (f.p.jointLower.map (· + f.p.jointMarginRad)).length = n := by
    rw [List.length_map, sized.lower]
  have raises : f.p.clipJoints sent = .error broadcastError := by
    unfold SafetyProfile.clipJoints
    dsimp only
    rw [broadcast_apart (map₂_apart Scalar.maximum (by rwa [lowers]) entries (by rwa [lowers]))]
    rfl
  unfold SafetyFilter.filterJoint
  dsimp only
  rw [raises]
  rfl

end FlexivControl
