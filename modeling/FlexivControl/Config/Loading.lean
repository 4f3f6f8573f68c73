/-
Loading a safety profile from the text of its file.

A text that the YAML library rejects is given to the built-in parser, and a profile is made
of whatever that reads. So a broken file is refused where a section of that reading has a
value the profile cannot be made of, and nowhere else.
-/

import FlexivControl.Config.MiniYaml
import FlexivControl.Wire.RoundTrip

namespace FlexivControl

variable {K : Type} [Scalar K] (lang : Language K) (safeLoad : String → Except Exc (Json K))

/-- `_load_yaml` of a file's text, with the YAML library there. -/
def loadYaml (text : String) : Json K :=
  match safeLoad text with
  | .ok value => if value.truthy then value else .obj []
  | .error _ => .obj (miniYaml lang text)

def loadSafetyProfile (text : String) : Except Exc (ConfigProfile K) :=
  profileFromDict lang (loadYaml lang safeLoad text)

def Raises {α : Type} (x : Except Exc α) : Prop := ∃ e, x = .error e

def isSingle : Json K → Bool
  | .arr _ | .obj _ | .str _ => false
  | _ => true

def isMapping : Json K → Bool
  | .obj _ => true
  | _ => false

/-- A section whose entry of the name cannot be taken: an entry that is refused, a list or a
text in which the name is found, or a value in which no name can be looked for. -/
def EntryRefused (name : String) (refused : Json K → Prop) : Json K → Prop
  | .obj fields => ∃ value, Json.field? fields name = some value ∧ refused value
  | .arr items => ∃ item ∈ items, item = .str name
  | .str text => name.toList <:+: text.toList
  | _ => True

def AxisRefused (value : Json K) : Prop := isSingle value = true

def ArrayRefused (value : Json K) : Prop := Raises (floatArray lang value)

def ActionRefused (value : Json K) : Prop :=
  lang.lower (toText lang value) ≠ "clip" ∧ lang.lower (toText lang value) ≠ "reject"

def SectionRefused (fields : Fields K) (name : String) (refused : Json K → Prop) : Prop :=
  ∃ value, Json.field? fields name = some value ∧ refused value

def WorkspaceRefused (ws : Json K) : Prop :=
  EntryRefused "x" AxisRefused ws ∨ EntryRefused "y" AxisRefused ws ∨
    EntryRefused "z" AxisRefused ws ∨ EntryRefused "action" (ActionRefused lang) ws

def LimitsRefused (limits : Json K) : Prop := isMapping limits = false

def JointLimitsRefused (jl : Json K) : Prop :=
  LimitsRefused jl ∨ EntryRefused "lower" (ArrayRefused lang) jl ∨
    EntryRefused "upper" (ArrayRefused lang) jl

def ContactRefused (ct : Json K) : Prop :=
  EntryRefused "max_wrench" (ArrayRefused lang) ct ∨
    EntryRefused "max_allowance" (ArrayRefused lang) ct

/-- A mapping no profile can be made of. -/
def ProfileRefused (fields : Fields K) : Prop :=
  SectionRefused fields "workspace" (WorkspaceRefused lang) ∨
    SectionRefused fields "tcp_limits" LimitsRefused ∨
    SectionRefused fields "joint_limits" (JointLimitsRefused lang) ∨
    SectionRefused fields "contact" (ContactRefused lang) ∨
    SectionRefused fields "watchdog" LimitsRefused

section Raising

variable {α β : Type}

theorem raises_error (e : Exc) : Raises (.error e : Except Exc α) := ⟨e, rfl⟩

theorem not_raises_ok (a : α) : ¬Raises (.ok a : Except Exc α) := by
  rintro ⟨e, impossible⟩
  cases impossible

theorem raises_bind {x : Except Exc α} {f : α → Except Exc β} {later : Prop}
    (after : ∀ a, Raises (f a) ↔ later) : Raises (x >>= f) ↔ Raises x ∨ later := by
  cases x with
  | error e =>
      constructor
      · intro _
        exact Or.inl (raises_error e)
      · intro _
        exact raises_error e
  | ok a =>
      rw [except_bind_ok, after a]
      constructor
      · exact Or.inr
      · rintro (raised | raised)
        · exact absurd raised (not_raises_ok a)
        · exact raised

omit [Scalar K] in
theorem raises_getOr (d : Json K) (name : String) (default : Json K) :
    Raises (getOr d name default) ↔ LimitsRefused d := by
  cases d with
  | obj fields =>
      constructor
      · intro raised
        exact absurd raised (not_raises_ok _)
      · intro refused
        cases refused
  | _ =>
      constructor
      · intro _
        rfl
      · intro _
        exact raises_error _

omit [Scalar K] in
theorem raises_iterate (value : Json K) : Raises (iterate value) ↔ AxisRefused value := by
  cases value with
  | arr items =>
      constructor
      · intro raised
        exact absurd raised (not_raises_ok _)
      · intro refused
        cases refused
  | obj fields =>
      constructor
      · intro raised
        exact absurd raised (not_raises_ok _)
      · intro refused
        cases refused
  | str text =>
      constructor
      · intro raised
        exact absurd raised (not_raises_ok _)
      · intro refused
        cases refused
  | _ =>
      constructor
      · intro _
        rfl
      · intro _
        exact raises_error _

theorem raises_shapedArray (value : Json K) :
    Raises (shapedArray lang value) ↔ ArrayRefused lang value := by
  unfold shapedArray ArrayRefused
  split
  · rename_i a read
    constructor
    · intro raised
      exact absurd raised (not_raises_ok _)
    · rintro ⟨e, raised⟩
      cases read.symm.trans raised
  · rename_i e read
    constructor
    · intro _
      exact ⟨e, read⟩
    · intro _
      exact raises_error e

omit [Scalar K] in
theorem contains_arr (items : List (Json K)) (name : String) :
    ∃ there, contains (.arr items) name = .ok there ∧
      (there = true ↔ ∃ value ∈ items, value = .str name) := by
  refine ⟨_, rfl, ?_⟩
  rw [List.any_eq_true]
  constructor
  · rintro ⟨value, member, same⟩
    refine ⟨value, member, ?_⟩
    cases value with
    | str text => rw [of_decide_eq_true same]
    | _ => cases same
  · rintro ⟨value, member, rfl⟩
    exact ⟨.str name, member, decide_eq_true rfl⟩

omit [Scalar K] in
theorem raises_entry (d : Json K) (name : String) {read : Json K → Except Exc α} {kept : α}
    {refused : Json K → Prop} (raises : ∀ value, Raises (read value) ↔ refused value) :
    Raises (do if ← contains d name then read (← item d name) else pure kept) ↔
      EntryRefused name refused d := by
  cases d with
  | obj fields =>
      cases found : Json.field? fields name with
      | none => simp [contains, EntryRefused, found, pure, Except.pure, not_raises_ok]
      | some value => simp [contains, item, EntryRefused, found, raises]
  | arr items =>
      obtain ⟨there, looked, listed⟩ := contains_arr items name
      rw [looked, except_bind_ok]
      change _ ↔ ∃ value ∈ items, value = .str name
      rw [← listed]
      cases there with
      | false => exact ⟨fun raised => absurd raised (not_raises_ok _), fun found => by cases found⟩
      | true => exact ⟨fun _ => rfl, fun _ => raises_error _⟩
  | str text =>
      have looked : contains (.str text : Json K) name =
          .ok (decide (name.toList <:+: text.toList)) := rfl
      rw [looked, except_bind_ok]
      change _ ↔ name.toList <:+: text.toList
      by_cases found : name.toList <:+: text.toList
      · rw [decide_eq_true found, if_pos rfl]
        exact ⟨fun _ => found, fun _ => raises_error _⟩
      · rw [decide_eq_false found, if_neg Bool.false_ne_true]
        exact ⟨fun raised => absurd raised (not_raises_ok _), fun there => absurd there found⟩
  | _ =>
      constructor
      · intro _
        trivial
      · intro _
        exact raises_error _

omit [Scalar K] in
theorem raises_tupleField (d : Json K) (name : String) (kept : List (Json K)) :
    Raises (tupleField d name kept) ↔ EntryRefused name AxisRefused d :=
  raises_entry d name raises_iterate

theorem raises_arrayField (d : Json K) (name : String) (kept : ShapedArray K) :
    Raises (arrayField lang d name kept) ↔ EntryRefused name (ArrayRefused lang) d :=
  raises_entry d name (raises_shapedArray lang)

omit [Scalar K] in
theorem raises_actionField (ws : Json K) (kept : WorkspaceAction) :
    Raises (actionField lang ws kept) ↔ EntryRefused "action" (ActionRefused lang) ws := by
  refine raises_entry ws "action" ?_
  intro value
  dsimp only
  unfold ActionRefused
  by_cases clips : lang.lower (toText lang value) = "clip"
  · rw [if_pos clips]
    exact ⟨fun raised => absurd raised (not_raises_ok _), fun refused => absurd clips refused.1⟩
  · rw [if_neg clips]
    by_cases rejects : lang.lower (toText lang value) = "reject"
    · rw [if_pos rejects]
      exact ⟨fun raised => absurd raised (not_raises_ok _),
        fun refused => absurd rejects refused.2⟩
    · rw [if_neg rejects]
      exact ⟨fun _ => ⟨clips, rejects⟩, fun _ => raises_error _⟩

omit [Scalar K] in
theorem sectionRefused_iff (fields : Fields K) (name : String) (refused : Json K → Prop)
    (none : ¬refused (.obj [])) :
    refused ((Json.field? fields name).getD (.obj [])) ↔ SectionRefused fields name refused := by
  unfold SectionRefused
  cases Json.field? fields name with
  | none => simp [none]
  | some value => simp

theorem raises_profileFromDict (fields : Fields K) :
    Raises (profileFromDict lang (.obj fields)) ↔ ProfileRefused lang fields := by
  unfold profileFromDict
  simp only [getOr_obj, except_bind_ok]
  refine (raises_bind fun wsX => raises_bind fun wsY => raises_bind fun wsZ =>
    raises_bind fun action =>
    raises_bind fun linearSpeed => raises_bind fun angularSpeed => raises_bind fun jumpLinear =>
    raises_bind fun jumpAngular => raises_bind fun linearAccel =>
    raises_bind fun margin => raises_bind fun speedScale => raises_bind fun lower =>
    raises_bind fun upper =>
    raises_bind fun wrench => raises_bind fun allowance =>
    raises_bind fun commandTimeout => raises_bind fun stateTimeout =>
    raises_bind fun stopOnCommand => raises_bind fun stopOnState =>
    raises_bind fun holdTimeout => ⟨not_raises_ok _, False.elim⟩).trans ?_
  rw [raises_tupleField, raises_tupleField, raises_tupleField, raises_actionField,
    raises_getOr, raises_getOr, raises_getOr, raises_getOr, raises_getOr, raises_getOr,
    raises_getOr, raises_arrayField, raises_arrayField, raises_arrayField, raises_arrayField,
    raises_getOr, raises_getOr, raises_getOr, raises_getOr, raises_getOr]
  have none (name : String) (refused : Json K → Prop) :
      ¬EntryRefused name refused (.obj []) := by
    rintro ⟨value, found, _⟩
    cases found
  have mapping : ¬LimitsRefused (.obj [] : Json K) := by
    intro refused
    cases refused
  unfold ProfileRefused
  rw [← sectionRefused_iff fields "workspace" (WorkspaceRefused lang)
      (by simp only [WorkspaceRefused, none, or_self, not_false_eq_true]),
    ← sectionRefused_iff fields "tcp_limits" LimitsRefused mapping,
    ← sectionRefused_iff fields "joint_limits" (JointLimitsRefused lang)
      (by simp only [JointLimitsRefused, none, mapping, or_self, not_false_eq_true]),
    ← sectionRefused_iff fields "contact" (ContactRefused lang)
      (by simp only [ContactRefused, none, or_self, not_false_eq_true]),
    ← sectionRefused_iff fields "watchdog" LimitsRefused mapping]
  unfold WorkspaceRefused JointLimitsRefused ContactRefused
  tauto

end Raising

section Broken

variable {safeLoad}

theorem loadYaml_rejected {text : String} {e : Exc} (rejected : safeLoad text = .error e) :
    loadYaml lang safeLoad text = .obj (miniYaml lang text) := by
  unfold loadYaml
  rw [rejected]

/-- A file that the library rejects is refused exactly when the built-in parser finds
something in it that no profile can be made of. -/
theorem broken_profile_refused_iff {text : String} {e : Exc}
    (rejected : safeLoad text = .error e) :
    Raises (loadSafetyProfile lang safeLoad text) ↔
      ProfileRefused lang (miniYaml lang text) := by
  rw [loadSafetyProfile, loadYaml_rejected lang rejected]
  exact raises_profileFromDict lang (miniYaml lang text)

def unclosedText : String := "name: 'bench"

def unclosedSection : String := "watchdog: 'fast"

noncomputable def unclosedLoad (text : String) : Except Exc (Json ℝ) :=
  if text = unclosedText ∨ text = unclosedSection then
    .error ⟨.other "ScannerError",
      "while scanning a quoted scalar: found unexpected end of stream"⟩
  else .ok .null

theorem unclosed_rejected : unclosedLoad unclosedText = .error ⟨.other "ScannerError",
    "while scanning a quoted scalar: found unexpected end of stream"⟩ := if_pos (Or.inl rfl)

theorem unclosedSection_rejected : unclosedLoad unclosedSection = .error ⟨.other "ScannerError",
    "while scanning a quoted scalar: found unexpected end of stream"⟩ := if_pos (Or.inr rfl)

theorem miniYaml_word {text key : String} {line value : List Char}
    (lines : Text.splitLines text.toList = [line]) (kept : skipped line = false)
    (keyed : keyOf line = key) (valued : valueOf line = value) (nonempty : value ≠ [])
    (margin : indentOf line = 0) (plain : bracketed value = false)
    (word : ¬(lowered value = "true".toList ∨ lowered value = "false".toList)) :
    miniYaml plainLanguage text = [(key, .str (String.ofList (unquoted value)))] := by
  have scalar : parseScalar plainLanguage value = .str (String.ofList (unquoted value)) := by
    rw [parseScalar, plain, if_neg Bool.false_ne_true, parsePlain, if_neg word]
    rfl
  rw [miniYaml, lines, List.foldl_cons, List.foldl_nil, miniLine, kept,
    if_neg Bool.false_ne_true, keyed, valued, margin, if_neg nonempty, scalar]
  rfl

theorem unclosed_read : miniYaml plainLanguage unclosedText =
    [("name", .str (String.ofList (unquoted "'bench".toList)))] := by
  have lines : Text.splitLines unclosedText.toList = ["name: 'bench".toList] := by decide
  exact miniYaml_word lines (by decide) (by decide) (by decide) (by decide) (by decide)
    (by decide) (by decide)

theorem unclosedSection_read : miniYaml plainLanguage unclosedSection =
    [("watchdog", .str (String.ofList (unquoted "'fast".toList)))] := by
  have lines : Text.splitLines unclosedSection.toList = ["watchdog: 'fast".toList] := by decide
  exact miniYaml_word lines (by decide) (by decide) (by decide) (by decide) (by decide)
    (by decide) (by decide)

theorem unclosed_accepted : ¬ProfileRefused plainLanguage (miniYaml plainLanguage unclosedText) := by
  rw [unclosed_read]
  rintro (found | found | found | found | found)
  all_goals
    obtain ⟨value, given, _⟩ := found
    cases given

/-- One of the two rejected texts is refused. -/
theorem broken_profile_refused_iff_unclosed :
    ¬Raises (loadSafetyProfile plainLanguage unclosedLoad unclosedText) ∧
      Raises (loadSafetyProfile plainLanguage unclosedLoad unclosedSection) := by
  have refused : ProfileRefused plainLanguage (miniYaml plainLanguage unclosedSection) := by
    rw [unclosedSection_read]
    exact Or.inr (Or.inr (Or.inr (Or.inr ⟨_, rfl, rfl⟩)))
  constructor
  · intro raised
    exact unclosed_accepted
      ((broken_profile_refused_iff plainLanguage unclosed_rejected).mp raised)
  · exact (broken_profile_refused_iff plainLanguage unclosedSection_rejected).mpr refused

/-- A profile is made of the file, with every limit at its default. -/
theorem broken_profile_loads :
    ¬∀ text e, unclosedLoad text = .error e →
      Raises (loadSafetyProfile plainLanguage unclosedLoad text) := by
  intro refused
  have raised := refused unclosedText _ unclosed_rejected
  rw [loadSafetyProfile, loadYaml_rejected plainLanguage unclosed_rejected,
    raises_profileFromDict] at raised
  exact unclosed_accepted raised

end Broken

end FlexivControl
