/-
The joints of a generated robot description, made ready for a viewer.

A mimic joint follows another joint, which may be a mimic itself; the viewer looks one
level up only. Chains of mimics that end at a drive joint are therefore cut to one link,
and mesh paths are made absolute.
-/

import FlexivControl.Library.AffineChain
import Mathlib.Data.List.Nodup
import Mathlib.Data.List.Basic

namespace FlexivControl

open AffineChain

/-- A `mimic` element; what is not given has a default. -/
structure Mimic (K : Type) where
  joint : Option String := none
  multiplier : Option K := none
  offset : Option K := none
  deriving DecidableEq

structure UrdfJoint (K : Type) where
  name : String
  kind : Option String
  mimic : Option (Mimic K) := none
  deriving DecidableEq

/-- A robot description, as far as it is touched. No two joints have one name. -/
structure Urdf (K : Type) where
  meshes : List String
  joints : List (UrdfJoint K)
  distinct : (joints.map UrdfJoint.name).Nodup

variable {K : Type} [CommSemiring K]

def Mimic.link (m : Mimic K) : Link String K where
  target := m.joint.getD ""
  factor := m.multiplier.getD 1
  shift := m.offset.getD 0

namespace Urdf

/-- The table of the original mimics, by joint name. -/
def mimics (joints : List (UrdfJoint K)) : List (String × Link String K) :=
  joints.filterMap fun joint => joint.mimic.map fun m => (joint.name, m.link)

def link? (joints : List (UrdfJoint K)) (name : String) : Option (Link String K) :=
  (mimics joints).lookup name

def actuated (joints : List (UrdfJoint K)) : List String :=
  joints.filterMap fun joint =>
    if joint.mimic.isNone ∧ joint.kind ≠ some "fixed" ∧ joint.kind ≠ none then some joint.name
    else none

def flattenJoint (joints : List (UrdfJoint K)) (joint : UrdfJoint K) : UrdfJoint K :=
  match joint.mimic with
  | none => joint
  | some m =>
      let l := AffineChain.follow (link? joints) 8 m.link
      if l.target ∈ actuated joints then
        { joint with mimic := some ⟨some l.target, some l.factor, some l.shift⟩ }
      else joint

theorem flattenJoint_name (joints : List (UrdfJoint K)) (joint : UrdfJoint K) :
    (flattenJoint joints joint).name = joint.name := by
  unfold flattenJoint
  cases joint.mimic with
  | none => rfl
  | some m =>
      dsimp only
      split <;> rfl

/-- A mesh path made absolute; `place` puts a path under the package root. -/
def absolutize (place : String → String) (fname : String) : String :=
  if fname = "" ∨ fname.startsWith "/" then fname
  else if fname.startsWith "package://" then
    let rel := (fname.drop 10).toString
    -- the package's own name goes
    place (if '/' ∈ rel.toList then String.ofList ((rel.toList.dropWhile (· ≠ '/')).drop 1)
      else rel)
  else place fname

def postprocess (place : String → String) (urdf : Urdf K) : Urdf K where
  meshes := urdf.meshes.map (absolutize place)
  joints := urdf.joints.map (flattenJoint urdf.joints)
  distinct := by
    rw [List.map_map]
    have names : UrdfJoint.name ∘ flattenJoint urdf.joints = UrdfJoint.name :=
      funext (flattenJoint_name urdf.joints)
    rw [names]
    exact urdf.distinct

/-- The joint that the chain of `name` arrives at within nine links, if it can be driven. -/
def DrivenBy (urdf : Urdf K) (name drive : String) : Prop :=
  ∃ n ≤ 9, Reaches (link? urdf.joints) n name drive ∧ drive ∈ actuated urdf.joints

/-- The value one level up: the target's own value, whether or not it is a mimic. -/
def oneLevel (urdf : Urdf K) (drive : String → K) (name : String) : K :=
  match link? urdf.joints name with
  | none => drive name
  | some l => l.factor * drive l.target + l.shift

section Table

theorem link?_cons (first : UrdfJoint K) (rest : List (UrdfJoint K)) (name : String) :
    link? (first :: rest) name =
      if first.name = name then (first.mimic.map Mimic.link).or (link? rest name)
      else link? rest name := by
  unfold link? mimics
  rw [List.filterMap_cons]
  cases first.mimic with
  | none =>
      rw [Option.map_none, Option.map_none, Option.none_or, ite_self]
  | some m =>
      rw [Option.map_some, Option.map_some, Option.some_or]
      dsimp only
      rw [List.lookup_cons]
      by_cases same : first.name = name
      · rw [if_pos same, same, beq_self_eq_true]
      · have apart : (name == first.name) = false := beq_eq_false_iff_ne.mpr (Ne.symm same)
        rw [if_neg same, apart]

theorem link?_of_not_mem {joints : List (UrdfJoint K)} {name : String}
    (missing : name ∉ joints.map UrdfJoint.name) : link? joints name = none := by
  induction joints with
  | nil => rfl
  | cons first rest ih =>
      rw [List.map_cons, List.mem_cons, not_or] at missing
      rw [link?_cons, if_neg (Ne.symm missing.1)]
      exact ih missing.2

theorem link?_of_mem {joints : List (UrdfJoint K)} {joint : UrdfJoint K}
    (distinct : (joints.map UrdfJoint.name).Nodup) (here : joint ∈ joints) :
    link? joints joint.name = joint.mimic.map Mimic.link := by
  induction joints with
  | nil => cases here
  | cons first rest ih =>
      rw [List.map_cons, List.nodup_cons] at distinct
      rw [link?_cons]
      rcases List.mem_cons.mp here with same | later
      · rw [same, if_pos rfl, link?_of_not_mem distinct.1, Option.or_none]
      · have apart : first.name ≠ joint.name := by
          intro same
          rw [same] at distinct
          exact distinct.1 (List.mem_map_of_mem later)
        rw [if_neg apart]
        exact ih distinct.2 later

theorem link?_of_actuated {urdf : Urdf K} {name : String}
    (driven : name ∈ actuated urdf.joints) : link? urdf.joints name = none := by
  unfold actuated at driven
  obtain ⟨joint, here, named⟩ := List.mem_filterMap.mp driven
  by_cases drivable : joint.mimic.isNone ∧ joint.kind ≠ some "fixed" ∧ joint.kind ≠ none
  · rw [if_pos drivable] at named
    have plain := Option.isNone_iff_eq_none.mp drivable.1
    rw [← Option.some.inj named, link?_of_mem urdf.distinct here, plain, Option.map_none]
  · rw [if_neg drivable] at named
    cases named

end Table

section Flattened

variable {urdf : Urdf K} {joint : UrdfJoint K} {m : Mimic K}

/-- A mimic is rewritten exactly where its chain arrives at a drivable joint in time. -/
theorem driven_iff (here : joint ∈ urdf.joints) (mimics : joint.mimic = some m)
    {drive : String} :
    urdf.DrivenBy joint.name drive ↔
      (AffineChain.follow (link? urdf.joints) 8 m.link).target = drive ∧
        drive ∈ actuated urdf.joints := by
  have own : link? urdf.joints joint.name = some m.link := by
    rw [link?_of_mem urdf.distinct here, mimics, Option.map_some]
  constructor
  · rintro ⟨n, within, reaches, driven⟩
    refine ⟨?_, driven⟩
    cases reaches with
    | done out => exact absurd (out.symm.trans own) (Option.some_ne_none _).symm
    | link found rest =>
        cases Option.some.inj (own.symm.trans found)
        exact follow_target rest (Nat.le_of_succ_le_succ within)
  · rintro ⟨arrives, driven⟩
    have out := link?_of_actuated driven
    rw [← arrives] at out
    obtain ⟨n, within, reaches⟩ := reaches_of_follow out
    rw [arrives] at reaches
    exact ⟨n + 1, Nat.succ_le_succ within, .link own reaches, driven⟩

theorem flattenJoint_driven {drive : String} (mimics : joint.mimic = some m)
    (arrives : (AffineChain.follow (link? urdf.joints) 8 m.link).target = drive)
    (driven : drive ∈ actuated urdf.joints) :
    flattenJoint urdf.joints joint = { joint with mimic := some ⟨some drive,
      some (AffineChain.follow (link? urdf.joints) 8 m.link).factor,
      some (AffineChain.follow (link? urdf.joints) 8 m.link).shift⟩ } := by
  unfold flattenJoint
  rw [mimics]
  dsimp only
  rw [arrives, if_pos driven]

theorem flattenJoint_other (mimics : joint.mimic = some m)
    (undriven : (AffineChain.follow (link? urdf.joints) 8 m.link).target ∉ actuated urdf.joints) :
    flattenJoint urdf.joints joint = joint := by
  unfold flattenJoint
  rw [mimics]
  dsimp only
  rw [if_neg undriven]

theorem oneLevel_flattened {place : String → String} {i : ℕ} {drive : String}
    (here : urdf.joints[i]? = some joint) (mimics : joint.mimic = some m)
    (arrives : (AffineChain.follow (link? urdf.joints) 8 m.link).target = drive)
    (driven : drive ∈ actuated urdf.joints) (value : String → K) :
    (urdf.postprocess place).oneLevel value joint.name =
      (AffineChain.follow (link? urdf.joints) 8 m.link).factor * value drive +
        (AffineChain.follow (link? urdf.joints) 8 m.link).shift := by
  have flat := flattenJoint_driven mimics arrives driven
  have rewritten : flattenJoint urdf.joints joint ∈ (urdf.postprocess place).joints :=
    List.mem_map_of_mem (List.mem_of_getElem? here)
  have entry := link?_of_mem (urdf.postprocess place).distinct rewritten
  rw [flattenJoint_name, flat] at entry
  unfold oneLevel
  rw [entry]
  rfl

/-- Every mimic whose chain arrives at a drivable joint within nine links now points at that
joint, and one level up it has the value that its whole chain gave it; every other mimic is
left as it was. -/
theorem mimics_flattened {place : String → String} {i : ℕ} (here : urdf.joints[i]? = some joint)
    (mimics : joint.mimic = some m) :
    (∀ drive, urdf.DrivenBy joint.name drive →
        ∃ factor shift, (urdf.postprocess place).joints[i]? =
            some { joint with mimic := some ⟨some drive, some factor, some shift⟩ } ∧
          ∀ (value : String → K) v, Resolves (link? urdf.joints) value joint.name v ↔
            v = (urdf.postprocess place).oneLevel value joint.name) ∧
      ((∀ drive, ¬ urdf.DrivenBy joint.name drive) →
        (urdf.postprocess place).joints[i]? = some joint) := by
  have member : joint ∈ urdf.joints := List.mem_of_getElem? here
  have at_i : (urdf.postprocess place).joints[i]? =
      some (flattenJoint urdf.joints joint) := by
    change (urdf.joints.map (flattenJoint urdf.joints))[i]? = _
    rw [List.getElem?_map, here, Option.map_some]
  constructor
  · intro drive drives
    obtain ⟨arrives, driven⟩ := (driven_iff member mimics).mp drives
    have flat := flattenJoint_driven mimics arrives driven
    refine ⟨_, _, at_i.trans (congrArg some flat), ?_⟩
    intro value v
    rw [oneLevel_flattened here mimics arrives driven]
    have own : link? urdf.joints joint.name = some m.link := by
      rw [link?_of_mem urdf.distinct member, mimics, Option.map_some]
    have ended : Resolves (link? urdf.joints) value
        (AffineChain.follow (link? urdf.joints) 8 m.link).target (value drive) := by
      rw [arrives]
      exact .done (link?_of_actuated driven)
    obtain ⟨w, rest, same⟩ := follow_value ended
    have whole := Resolves.link own rest
    rw [same] at whole
    constructor
    · intro resolved
      exact resolved.unique whole
    · intro equal
      rw [equal]
      exact whole
  · intro undriven
    rw [at_i, flattenJoint_other mimics]
    intro driven
    exact undriven _ ((driven_iff member mimics).mpr ⟨rfl, driven⟩)

end Flattened

end Urdf

def nestedJoints : List (UrdfJoint ℤ) :=
  [⟨"drive", some "revolute", none⟩,
    ⟨"first", some "revolute", some ⟨some "drive", some 2, some 1⟩⟩,
    ⟨"second", some "revolute", some ⟨some "first", some (-1), some 5⟩⟩,
    ⟨"left", some "revolute", some ⟨some "right", none, none⟩⟩,
    ⟨"right", some "revolute", some ⟨some "left", none, none⟩⟩]

theorem nestedJoints_distinct : (nestedJoints.map UrdfJoint.name).Nodup := by decide

def nestedUrdf : Urdf ℤ where
  meshes := []
  joints := nestedJoints
  distinct := nestedJoints_distinct

example : (Urdf.flattenJoint nestedJoints
    ⟨"second", some "revolute", some ⟨some "first", some (-1), some 5⟩⟩).mimic =
      some ⟨some "drive", some (-2), some 4⟩ := by decide

theorem mimics_flattened_second :
    ∃ factor shift, (nestedUrdf.postprocess id).joints[2]? =
        some ⟨"second", some "revolute", some ⟨some "drive", some factor, some shift⟩⟩ ∧
      ∀ (value : String → ℤ) v,
        AffineChain.Resolves (Urdf.link? nestedUrdf.joints) value "second" v ↔
          v = (nestedUrdf.postprocess id).oneLevel value "second" := by
  have here : nestedUrdf.joints[2]? =
      some ⟨"second", some "revolute", some ⟨some "first", some (-1), some 5⟩⟩ := rfl
  apply (Urdf.mimics_flattened here rfl).1 "drive"
  exact ⟨2, by decide, .link rfl (.link rfl (.done rfl)), by decide⟩

end FlexivControl
