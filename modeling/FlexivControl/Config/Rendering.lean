/-
The grammar of the configurations the built-in parser is for, and that the parser inverts
it.

A rendering has one line for each entry, an inner mapping indented deeper than its key, and
blank lines and comments anywhere. The parser's stack holds the path to the mapping whose
entries are being read; what an inner mapping leaves on it is taken off by the next line of
an outer one.
-/

import FlexivControl.Config.MiniYaml

namespace FlexivControl

open Text

variable {K : Type} (lang : Language K)

/-! ### Renderings -/

def Blank (gap : List Char) : Prop := ∀ c ∈ gap, space c = true ∧ lineBreak c = false

def OneLine (text : List Char) : Prop := ∀ c ∈ text, lineBreak c = false

inductive Note : List Char → Prop where
  | none : Note []
  | comment {text : List Char} (line : OneLine text) : Note ('#' :: text)

/-- A line without an entry. -/
inductive Filler : List Char → Prop where
  | line {gap note : List Char} (gapBlank : Blank gap) (noted : Note note) :
      Filler (gap ++ note)

structure Bare (text : List Char) : Prop where
  filled : text ≠ []
  stripped : Text.strip text = text
  oneLine : OneLine text
  unmarked : '#' ∉ text

structure KeyText (key : String) : Prop extends Bare key.toList where
  uncut : ':' ∉ key.toList

/-- The line of an entry, the value being a text or nothing. -/
inductive Entry (indent : Nat) (key : String) (value : List Char) : List Char → Prop where
  | line {margin before after trailing note : List Char} (marginBlank : Blank margin)
      (width : margin.length = indent) (beforeBlank : Blank before) (afterBlank : Blank after)
      (trailingBlank : Blank trailing) (noted : Note note) :
      Entry indent key value
        (margin ++ (key.toList ++ (before ++ ':' :: (after ++ (value ++ (trailing ++ note))))))

def numeralChars : List Char :=
  ['0', '1', '2', '3', '4', '5', '6', '7', '8', '9', '+', '-', '.', 'e', 'E', '_']

structure Numeral (text : List Char) : Prop where
  filled : text ≠ []
  chars : ∀ c ∈ text, c ∈ numeralChars

structure Word (word : String) : Prop extends Bare word.toList where
  unquoted : '"' ∉ word.toList ∧ '\'' ∉ word.toList
  unlisted : '[' ∉ word.toList ∧ ']' ∉ word.toList ∧ ',' ∉ word.toList
  notTruth : lowered word.toList ≠ "true".toList ∧ lowered word.toList ≠ "false".toList
  notInt : lang.parseInt word = none
  notFloat : lang.parseFloat word = none

inductive AtomText : Json K → List Char → Prop where
  | int {n : Int} {text : List Char} (numeral : Numeral text)
      (read : lang.parseInt (String.ofList text) = some n) : AtomText (.int n) text
  | decimal {x : K} {text : List Char} (numeral : Numeral text)
      (notInt : lang.parseInt (String.ofList text) = none)
      (read : lang.parseFloat (String.ofList text) = some x) : AtomText (.num x) text
  | yes {text : List Char}
      (written : text ∈ ["true".toList, "True".toList, "TRUE".toList]) :
      AtomText (.bool true) text
  | no {text : List Char}
      (written : text ∈ ["false".toList, "False".toList, "FALSE".toList]) :
      AtomText (.bool false) text
  | word {word : String} (plain : Word lang word) : AtomText (.str word) word.toList

inductive ItemsText : List (Json K) → List Char → Prop where
  | last {item : Json K} {before text after : List Char} (beforeBlank : Blank before)
      (atom : AtomText lang item text) (afterBlank : Blank after) :
      ItemsText [item] (before ++ (text ++ after))
  | more {item : Json K} {items : List (Json K)} {before text after rest : List Char}
      (beforeBlank : Blank before) (atom : AtomText lang item text) (afterBlank : Blank after)
      (later : ItemsText items rest) :
      ItemsText (item :: items) (before ++ (text ++ after) ++ ',' :: rest)

inductive LeafText : Json K → List Char → Prop where
  | atom {value : Json K} {text : List Char} (atom : AtomText lang value text) :
      LeafText value text
  | empty {gap : List Char} (gapBlank : Blank gap) : LeafText (.arr []) ('[' :: gap ++ [']'])
  | list {items : List (Json K)} {text : List Char} (written : ItemsText lang items text) :
      LeafText (.arr items) ('[' :: text ++ [']'])

/-- The lines of a mapping whose entries stand at an indentation. -/
inductive Renders : Nat → Fields K → List (List Char) → Prop where
  | done {indent : Nat} : Renders indent [] []
  | filler {indent : Nat} {fields : Fields K} {line : List Char} {lines : List (List Char)}
      (filled : Filler line) (later : Renders indent fields lines) :
      Renders indent fields (line :: lines)
  | leaf {indent : Nat} {key : String} {value : Json K} {fields : Fields K}
      {text line : List Char} {lines : List (List Char)} (keyText : KeyText key)
      (fresh : key ∉ fields.map Prod.fst) (leafText : LeafText lang value text)
      (entry : Entry indent key text line) (later : Renders indent fields lines) :
      Renders indent ((key, value) :: fields) (line :: lines)
  | nested {indent deeper : Nat} {key : String} {inner fields : Fields K} {line : List Char}
      {innerLines lines : List (List Char)} (keyText : KeyText key)
      (fresh : key ∉ fields.map Prod.fst) (entry : Entry indent key [] line)
      (inside : indent < deeper) (innerRendered : Renders deeper inner innerLines)
      (later : Renders indent fields lines) :
      Renders indent ((key, .obj inner) :: fields) (line :: (innerLines ++ lines))

/-! ### What is read off a line -/

theorem Blank.white {gap : List Char} (blank : Blank gap) : ∀ c ∈ gap, space c = true := by
  intro c member
  exact (blank c member).1

theorem Blank.oneLine {gap : List Char} (blank : Blank gap) : OneLine gap := by
  intro c member
  exact (blank c member).2

theorem Blank.absent {gap : List Char} (blank : Blank gap) {c : Char} (seen : space c = false) :
    c ∉ gap := by
  intro member
  rw [blank.white c member] at seen
  cases seen

theorem OneLine.append {text more : List Char} (line : OneLine text) (other : OneLine more) :
    OneLine (text ++ more) := by
  intro c member
  rcases List.mem_append.mp member with first | second
  · exact line c first
  · exact other c second

theorem OneLine.cons {c : Char} {text : List Char} (inside : lineBreak c = false)
    (line : OneLine text) : OneLine (c :: text) := by
  intro d member
  rcases List.mem_cons.mp member with same | later
  · rw [same]
    exact inside
  · exact line d later

theorem oneLine_nil : OneLine [] := by
  intro c member
  cases member

theorem Note.oneLine {note : List Char} (noted : Note note) : OneLine note := by
  cases noted with
  | none => exact oneLine_nil
  | comment line => exact line.cons rfl

/-- What is before a note is what is before its mark. -/
theorem Note.cut {note text : List Char} (noted : Note note) (unmarked : '#' ∉ text) :
    (text ++ note).takeWhile (· ≠ '#') = text := by
  cases noted with
  | none => rw [List.append_nil, takeWhile_ne_of_absent unmarked]
  | comment line => exact takeWhile_ne unmarked _

theorem Filler.oneLine {line : List Char} (filled : Filler line) : OneLine line := by
  cases filled with
  | line gapBlank noted => exact gapBlank.oneLine.append noted.oneLine

theorem Filler.skipped {line : List Char} (filled : Filler line) : skipped line = true := by
  cases filled with
  | @line gap note gapBlank noted =>
      have stripped : Text.strip (gap ++ note) = Text.strip note :=
        trim_append_left gapBlank.white note
      unfold FlexivControl.skipped
      rw [stripped]
      cases noted with
      | none => rfl
      | @comment text line =>
          have marked : Text.strip ('#' :: text) = '#' :: text.rdropWhile space :=
            rdropWhile_append_cons (x := '#') rfl [] text
          rw [marked]
          rfl

def Inline (value : List Char) : Prop := value = [] ∨ Bare value

theorem Inline.oneLine {value : List Char} (inline : Inline value) : OneLine value := by
  rcases inline with rfl | bare
  · exact oneLine_nil
  · exact bare.oneLine

theorem Inline.unmarked {value : List Char} (inline : Inline value) : '#' ∉ value := by
  rcases inline with rfl | bare
  · exact List.not_mem_nil
  · exact bare.unmarked

theorem Inline.stripped {value : List Char} (inline : Inline value) :
    Text.strip value = value := by
  rcases inline with rfl | bare
  · rfl
  · exact bare.stripped

theorem Entry.oneLine {indent : Nat} {key : String} {value line : List Char}
    (keyText : KeyText key) (inline : Inline value) (entry : Entry indent key value line) :
    OneLine line := by
  cases entry with
  | line marginBlank width beforeBlank afterBlank trailingBlank noted =>
      have rest := afterBlank.oneLine.append
        (inline.oneLine.append (trailingBlank.oneLine.append noted.oneLine))
      exact marginBlank.oneLine.append
        (keyText.oneLine.append (beforeBlank.oneLine.append (rest.cons rfl)))

structure ReadAs (line : List Char) (indent : Nat) (key : String) (value : List Char) :
    Prop where
  kept : skipped line = false
  indented : indentOf line = indent
  keyed : keyOf line = key
  valued : valueOf line = value

theorem Entry.read {indent : Nat} {key : String} {value line : List Char}
    (keyText : KeyText key) (inline : Inline value) (entry : Entry indent key value line) :
    ReadAs line indent key value := by
  cases entry with
  | @line margin before after trailing note marginBlank width beforeBlank afterBlank
      trailingBlank noted =>
      obtain ⟨c, rest, spelled⟩ := List.exists_cons_of_ne_nil keyText.filled
      have keyStripped : trim space (c :: rest) = c :: rest := spelled ▸ keyText.stripped
      have seen : space c = false := head_of_trim keyStripped
      generalize tail : after ++ (value ++ (trailing ++ note)) = remaining
      have stripped : Text.strip (margin ++ (key.toList ++ (before ++ ':' :: remaining))) =
          key.toList ++ before ++ ':' :: remaining.rdropWhile space := by
        rw [spelled, Text.strip, trim_append_cons keyStripped marginBlank.white,
          ← List.append_assoc, rdropWhile_append_cons rfl]
      have cut : partition ':' (key.toList ++ before ++ ':' :: remaining.rdropWhile space) =
          (key.toList ++ before, remaining.rdropWhile space) := by
        apply partition_append
        intro member
        rcases List.mem_append.mp member with first | second
        · exact keyText.uncut first
        · exact beforeBlank.absent rfl second
      constructor
      · have unmarked : c ≠ '#' := by
          intro same
          exact keyText.unmarked (spelled ▸ same ▸ List.mem_cons_self)
        unfold skipped
        rw [stripped, spelled, List.cons_append, List.cons_append, List.head?_cons,
          decide_eq_false (List.cons_ne_nil _ _), Bool.false_or, decide_eq_false_iff_not]
        intro same
        exact unmarked (Option.some.inj same)
      · have left : lstrip (margin ++ (key.toList ++ (before ++ ':' :: remaining))) =
            key.toList ++ (before ++ ':' :: remaining) := by
          rw [lstrip, List.dropWhile_append_of_pos marginBlank.white, spelled,
            List.cons_append, List.dropWhile_cons, seen, if_neg Bool.false_ne_true]
        rw [indentOf, left, List.length_append, width, Nat.add_sub_cancel]
      · have keyOnly : Text.strip (key.toList ++ before) = key.toList := by
          rw [Text.strip, trim_append_right _ beforeBlank.white]
          exact keyText.stripped
        rw [keyOf, stripped, cut, keyOnly, String.ofList_toList]
      · have unmarked : '#' ∉ after ++ (value ++ trailing) := by
          intro member
          rcases List.mem_append.mp member with first | second
          · exact afterBlank.absent rfl first
          · rcases List.mem_append.mp second with inner | last
            · exact inline.unmarked inner
            · exact trailingBlank.absent rfl last
        have shown : remaining.takeWhile (· ≠ '#') = after ++ (value ++ trailing) := by
          rw [← tail, ← List.append_assoc value, ← List.append_assoc after,
            noted.cut unmarked]
        rw [valueOf, stripped, cut, Text.strip, trim_takeWhile_rdropWhile, shown,
          trim_append_left afterBlank.white, trim_append_right _ trailingBlank.white]
        exact inline.stripped

structure ItemBare (text : List Char) : Prop extends Bare text where
  unseparated : ',' ∉ text
  unopened : '[' ∉ text

theorem forall_of_all {p : Char → Prop} [DecidablePred p] {text : List Char}
    (all : text.all (fun c => decide (p c)) = true) : ∀ c ∈ text, p c := by
  intro c member
  exact of_decide_eq_true (List.all_eq_true.mp all c member)

theorem oneLine_of_all {text : List Char} (all : text.all (fun c => !lineBreak c) = true) :
    OneLine text := by
  intro c member
  have inside := List.all_eq_true.mp all c member
  rw [Bool.not_eq_true'] at inside
  exact inside

theorem numeralChars_spec : ∀ c ∈ numeralChars,
    space c = false ∧ lineBreak c = false ∧ c ≠ '#' ∧ c ≠ ',' ∧ c ≠ '[' ∧
      c.toLower ≠ 't' ∧ c.toLower ≠ 'f' := by
  apply forall_of_all
  decide +kernel

theorem Numeral.itemBare {text : List Char} (numeral : Numeral text) : ItemBare text := by
  have spec (c : Char) (member : c ∈ text) := numeralChars_spec c (numeral.chars c member)
  refine ⟨⟨numeral.filled, ?_, ?_, ?_⟩, ?_, ?_⟩
  · apply trim_none
    intro c member
    exact (spec c member).1
  · intro c member
    exact (spec c member).2.1
  · intro member
    exact (spec '#' member).2.2.1 rfl
  · intro member
    exact (spec ',' member).2.2.2.1 rfl
  · intro member
    exact (spec '[' member).2.2.2.2.1 rfl

theorem Numeral.not_truth {text : List Char} (numeral : Numeral text) :
    ¬(lowered text = "true".toList ∨ lowered text = "false".toList) := by
  obtain ⟨c, rest, spelled⟩ := List.exists_cons_of_ne_nil numeral.filled
  have spec := numeralChars_spec c (numeral.chars c (spelled ▸ List.mem_cons_self))
  rw [spelled]
  intro truth
  rcases truth with same | same
  · exact spec.2.2.2.2.2.1 (List.cons.inj same).1
  · exact spec.2.2.2.2.2.2 (List.cons.inj same).1

theorem truthTexts_bare : ∀ text ∈ ["true".toList, "True".toList, "TRUE".toList,
    "false".toList, "False".toList, "FALSE".toList], ItemBare text := by
  have facts : ∀ text ∈ ["true".toList, "True".toList, "TRUE".toList,
      "false".toList, "False".toList, "FALSE".toList],
      text ≠ [] ∧ Text.strip text = text ∧ text.all (fun c => !lineBreak c) = true ∧
        '#' ∉ text ∧ ',' ∉ text ∧ '[' ∉ text := by
    decide +kernel
  intro text member
  obtain ⟨filled, stripped, line, unmarked, unseparated, unopened⟩ := facts text member
  exact ⟨⟨filled, stripped, oneLine_of_all line, unmarked⟩, unseparated, unopened⟩

section Values

variable {lang}

theorem AtomText.itemBare {value : Json K} {text : List Char}
    (atom : AtomText lang value text) : ItemBare text := by
  cases atom with
  | int numeral read => exact numeral.itemBare
  | decimal numeral notInt read => exact numeral.itemBare
  | yes written =>
      apply truthTexts_bare
      exact List.mem_append_left ["false".toList, "False".toList, "FALSE".toList] written
  | no written =>
      apply truthTexts_bare
      exact List.mem_append_right ["true".toList, "True".toList, "TRUE".toList] written
  | word plain => exact ⟨plain.toBare, plain.unlisted.2.2, plain.unlisted.1⟩

theorem parsePlain_atom {value : Json K} {text : List Char}
    (atom : AtomText lang value text) : parsePlain lang text = value := by
  cases atom with
  | int numeral read =>
      unfold parsePlain
      rw [if_neg numeral.not_truth, read]
  | decimal numeral notInt read =>
      unfold parsePlain
      rw [if_neg numeral.not_truth, notInt]
      dsimp only
      rw [read]
  | yes written =>
      have low : lowered text = "true".toList := by
        revert text
        decide
      rw [parsePlain, if_pos (Or.inl low), decide_eq_true low]
  | no written =>
      have low : lowered text = "false".toList := by
        revert text
        decide
      have other : ¬lowered text = "true".toList := by
        rw [low]
        decide
      rw [parsePlain, if_pos (Or.inr low), decide_eq_false other]
  | @word word plain =>
      have free (quote : Char) (absent : quote ∉ word.toList) :
          trim (fun c => c = quote) word.toList = word.toList := by
        apply trim_none
        intro c member
        rw [decide_eq_false_iff_not]
        intro same
        exact absent (same ▸ member)
      have kept : unquoted word.toList = word.toList := by
        rw [unquoted, free '"' plain.unquoted.1, free '\'' plain.unquoted.2]
      have other : ¬(lowered word.toList = "true".toList ∨
          lowered word.toList = "false".toList) := by
        intro truth
        rcases truth with same | same
        · exact plain.notTruth.1 same
        · exact plain.notTruth.2 same
      unfold parsePlain
      rw [if_neg other, String.ofList_toList, plain.notInt]
      dsimp only
      rw [plain.notFloat, kept, String.ofList_toList]

theorem parseScalar_atom {value : Json K} {text : List Char}
    (atom : AtomText lang value text) : parseScalar lang text = value := by
  have open? : bracketed text = false := by
    obtain ⟨c, rest, spelled⟩ := List.exists_cons_of_ne_nil atom.itemBare.filled
    have other : ¬(c :: rest).head? = some '[' := by
      intro same
      exact atom.itemBare.unopened (spelled ▸ Option.some.inj same ▸ List.mem_cons_self)
    rw [spelled, bracketed, decide_eq_false other, Bool.false_and]
  rw [parseScalar, open?, if_neg Bool.false_ne_true, parsePlain_atom atom]

theorem ItemsText.pieces {items : List (Json K)} {text : List Char}
    (written : ItemsText lang items text) :
    List.Forall₂ (fun item piece => AtomText lang item (Text.strip piece)) items
      (text.splitOn ',') := by
  have whole {item : Json K} {before text after : List Char} (beforeBlank : Blank before)
      (atom : AtomText lang item text) (afterBlank : Blank after) :
      ',' ∉ before ++ (text ++ after) ∧
        AtomText lang item (Text.strip (before ++ (text ++ after))) := by
    constructor
    · intro member
      rcases List.mem_append.mp member with first | second
      · exact beforeBlank.absent rfl first
      · rcases List.mem_append.mp second with inner | last
        · exact atom.itemBare.unseparated inner
        · exact afterBlank.absent rfl last
    · rw [Text.strip, trim_append_left beforeBlank.white, trim_append_right _ afterBlank.white]
      have stripped : trim space text = text := atom.itemBare.stripped
      rw [stripped]
      exact atom
  induction written with
  | last beforeBlank atom afterBlank =>
      obtain ⟨unseparated, stripped⟩ := whole beforeBlank atom afterBlank
      rw [List.splitOn_eq_singleton unseparated]
      exact .cons stripped .nil
  | more beforeBlank atom afterBlank later ih =>
      obtain ⟨unseparated, stripped⟩ := whole beforeBlank atom afterBlank
      rw [List.splitOn_append_cons_self_of_not_mem unseparated]
      exact .cons stripped ih

theorem ItemsText.line {items : List (Json K)} {text : List Char}
    (written : ItemsText lang items text) : OneLine text ∧ '#' ∉ text := by
  have whole {item : Json K} {before text after : List Char} (beforeBlank : Blank before)
      (atom : AtomText lang item text) (afterBlank : Blank after) :
      OneLine (before ++ (text ++ after)) ∧ '#' ∉ before ++ (text ++ after) := by
    refine ⟨beforeBlank.oneLine.append (atom.itemBare.oneLine.append afterBlank.oneLine), ?_⟩
    intro member
    rcases List.mem_append.mp member with first | second
    · exact beforeBlank.absent rfl first
    · rcases List.mem_append.mp second with inner | last
      · exact atom.itemBare.unmarked inner
      · exact afterBlank.absent rfl last
  induction written with
  | last beforeBlank atom afterBlank => exact whole beforeBlank atom afterBlank
  | more beforeBlank atom afterBlank later ih =>
      obtain ⟨line, unmarked⟩ := whole beforeBlank atom afterBlank
      refine ⟨line.append (ih.1.cons rfl), ?_⟩
      intro member
      rcases List.mem_append.mp member with first | second
      · exact unmarked first
      · rcases List.mem_cons.mp second with same | later
        · cases same
        · exact ih.2 later

theorem bare_list {text : List Char} (line : OneLine text) (unmarked : '#' ∉ text) :
    Bare ('[' :: text ++ [']']) where
  filled := List.cons_ne_nil _ _
  stripped := by
    have right : ('[' :: text ++ [']']).rdropWhile space = '[' :: text ++ [']'] :=
      rdropWhile_append_cons (x := ']') rfl ('[' :: text) []
    exact right
  oneLine := (line.cons rfl).append (oneLine_nil.cons rfl)
  unmarked := by
    intro member
    rcases List.mem_append.mp member with first | second
    · rcases List.mem_cons.mp first with same | inner
      · cases same
      · exact unmarked inner
    · rcases List.mem_cons.mp second with same | none
      · cases same
      · cases none

theorem LeafText.bare {value : Json K} {text : List Char} (leaf : LeafText lang value text) :
    Bare text := by
  cases leaf with
  | atom atom => exact atom.itemBare.toBare
  | empty gapBlank => exact bare_list gapBlank.oneLine (gapBlank.absent rfl)
  | list written => exact bare_list written.line.1 written.line.2

theorem bracketed_list (text : List Char) : bracketed ('[' :: text ++ [']']) = true := by
  rw [bracketed, List.getLast?_concat]
  rfl

theorem innerText_list (text : List Char) :
    innerText ('[' :: text ++ [']']) = Text.strip text := by
  rw [innerText, List.cons_append, List.drop_one, List.tail_cons, List.dropLast_concat]

theorem pieces_filled {items : List (Json K)} {pieces : List (List Char)}
    (atoms : List.Forall₂ (fun item piece => AtomText lang item (Text.strip piece)) items
      pieces) : ∀ piece ∈ pieces, Text.strip piece ≠ [] := by
  induction atoms with
  | nil =>
      intro piece member
      cases member
  | cons atom others ih =>
      intro piece member
      rcases List.mem_cons.mp member with same | later
      · rw [same]
        exact atom.itemBare.filled
      · exact ih piece later

theorem pieces_parsed {items : List (Json K)} {pieces : List (List Char)}
    (atoms : List.Forall₂ (fun item piece => AtomText lang item (Text.strip piece)) items
      pieces) : (pieces.map Text.strip).map (parseScalar lang) = items := by
  induction atoms with
  | nil => rfl
  | cons atom others ih => rw [List.map_cons, List.map_cons, ih, parseScalar_atom atom]

theorem parseScalar_leaf {value : Json K} {text : List Char}
    (leaf : LeafText lang value text) : parseScalar lang text = value := by
  cases leaf with
  | atom atom => exact parseScalar_atom atom
  | @empty gap gapBlank =>
      have nothing : Text.strip gap = [] := trim_all gapBlank.white
      rw [parseScalar, bracketed_list, if_pos rfl, innerText_list, if_pos nothing]
  | @list items text written =>
      have same : ((Text.strip text).splitOn ',').map Text.strip =
          (text.splitOn ',').map Text.strip := splitOn_trim rfl text
      have filled : Text.strip text ≠ [] := by
        intro nothing
        have member : [] ∈ ((Text.strip text).splitOn ',').map Text.strip := by
          rw [nothing]
          exact List.mem_cons_self
        rw [same] at member
        obtain ⟨piece, inside, none⟩ := List.mem_map.mp member
        exact pieces_filled written.pieces piece inside none
      have parsed := pieces_parsed written.pieces
      rw [← same, List.map_map] at parsed
      have attached : (((Text.strip text).splitOn ',').attach.map
          fun x => parseScalar lang (Text.strip x.1)) =
          ((Text.strip text).splitOn ',').map (parseScalar lang ∘ Text.strip) :=
        @List.attach_map_val _ _ _ (parseScalar lang ∘ Text.strip)
      rw [parseScalar, bracketed_list, if_pos rfl, innerText_list, if_neg filled]
      exact congrArg Json.arr (attached.trans parsed)

end Values

/-! ### The stack -/

section Stack

def plug : List (Fields K × String) → Fields K → Fields K
  | [], fields => fields
  | (before, key) :: context, fields => before ++ [(key, .obj (plug context fields))]

def FreshKeys (context : List (Fields K × String)) : Prop :=
  ∀ frame ∈ context, frame.2 ∉ frame.1.map Prod.fst

theorem setField_fresh {fields : Fields K} {key : String} (fresh : key ∉ fields.map Prod.fst)
    (value : Json K) : setField fields key value = fields ++ [(key, value)] := by
  rw [setField, if_neg fresh]

theorem field?_last {before : Fields K} {key : String} (fresh : key ∉ before.map Prod.fst)
    (value : Json K) : Json.field? (before ++ [(key, value)]) key = some value := by
  induction before with
  | nil => rw [List.nil_append, Json.field?_cons_self]
  | cons field before ih =>
      rw [List.map_cons, List.mem_cons, not_or] at fresh
      rw [List.cons_append, Json.field?_cons_of_ne fresh.1]
      exact ih fresh.2

theorem setField_last {before : Fields K} {key : String} (fresh : key ∉ before.map Prod.fst)
    (value new : Json K) :
    setField (before ++ [(key, value)]) key new = before ++ [(key, new)] := by
  have used : key ∈ (before ++ [(key, value)]).map Prod.fst := by
    rw [List.map_append]
    exact List.mem_append_right _ List.mem_cons_self
  have kept : before.map (fun field => if field.1 = key then (key, new) else field) =
      before := by
    refine (List.map_congr_left ?_).trans (List.map_id before)
    intro field member
    have other : field.1 ≠ key := by
      intro same
      exact fresh (same ▸ List.mem_map_of_mem member)
    rw [if_neg other]
    rfl
  rw [setField, if_pos used, List.map_append, kept, List.map_singleton, if_pos rfl]

theorem setAt_plug {context : List (Fields K × String)} (freshKeys : FreshKeys context)
    (fields : Fields K) (key : String) (value : Json K) :
    setAt (plug context fields) (context.map Prod.snd) key value =
      plug context (setField fields key value) := by
  induction context with
  | nil => rfl
  | cons frame context ih =>
      obtain ⟨before, step⟩ := frame
      have fresh : step ∉ before.map Prod.fst := freshKeys (before, step) List.mem_cons_self
      have inner := ih fun other member => freshKeys other (List.mem_cons_of_mem _ member)
      rw [plug, List.map_cons, setAt, field?_last fresh]
      dsimp only
      rw [inner, setField_last fresh, plug]

theorem plug_append (context : List (Fields K × String)) (fields : Fields K) (key : String)
    (inner : Fields K) :
    plug (context ++ [(fields, key)]) inner = plug context (fields ++ [(key, .obj inner)]) := by
  induction context with
  | nil => rfl
  | cons frame context ih => rw [List.cons_append, plug, ih, plug]

def settled (indent : Nat) (stack : List (Int × List String)) : List (Int × List String) :=
  stack.dropWhile fun entry => (indent : Int) ≤ entry.1

theorem settled_settled {indent deeper : Nat} (inside : indent ≤ deeper)
    (stack : List (Int × List String)) :
    settled indent (settled deeper stack) = settled indent stack := by
  induction stack with
  | nil => rfl
  | cons entry stack ih =>
      by_cases left : (deeper : Int) ≤ entry.1
      · have early : (indent : Int) ≤ entry.1 := by omega
        have gone : settled deeper (entry :: stack) = settled deeper stack := by
          rw [settled, List.dropWhile_cons, if_pos (decide_eq_true left)]
          rfl
        rw [gone, ih, settled, settled, List.dropWhile_cons, if_pos (decide_eq_true early)]
      · have kept : settled deeper (entry :: stack) = entry :: stack := by
          rw [settled, List.dropWhile_cons, if_neg (by rw [decide_eq_true_iff]; exact left)]
        rw [kept]

variable {lang}

theorem miniLine_filler {line : List Char} (filled : Filler line) (s : MiniState K) :
    miniLine lang s line = s := by
  rw [miniLine, if_pos filled.skipped]

section Entries

variable {context : List (Fields K × String)} {before : Fields K} {indent : Nat}
  {stack rest : List (Int × List String)} {top : Int}

theorem miniLine_leaf (freshKeys : FreshKeys context)
    (opened : settled indent stack = (top, context.map Prod.snd) :: rest) {line text : List Char}
    {key : String} (read : ReadAs line indent key text) (filled : text ≠ [])
    (unused : key ∉ before.map Prod.fst) :
    miniLine lang ⟨plug context before, stack⟩ line =
      ⟨plug context (before ++ [(key, parseScalar lang text)]), settled indent stack⟩ := by
  unfold settled at opened ⊢
  rw [miniLine, read.kept, if_neg Bool.false_ne_true]
  dsimp only
  rw [read.indented, read.keyed, read.valued, if_neg filled, opened, List.head?_cons,
    Option.map_some, Option.getD_some, setAt_plug freshKeys, setField_fresh unused]

theorem miniLine_nested (freshKeys : FreshKeys context)
    (opened : settled indent stack = (top, context.map Prod.snd) :: rest) {line : List Char}
    {key : String} (read : ReadAs line indent key []) (unused : key ∉ before.map Prod.fst) :
    miniLine lang ⟨plug context before, stack⟩ line =
      ⟨plug (context ++ [(before, key)]) [],
        ((indent : Int), (context ++ [(before, key)]).map Prod.snd) :: settled indent stack⟩ := by
  unfold settled at opened ⊢
  rw [miniLine, read.kept, if_neg Bool.false_ne_true]
  dsimp only
  rw [read.indented, read.keyed, read.valued, if_pos rfl, opened, List.head?_cons,
    Option.map_some, Option.getD_some, setAt_plug freshKeys, setField_fresh unused, plug_append,
    List.map_append]
  rfl

end Entries

/-- The lines of a mapping add its fields to the open mapping, and a line at their
indentation finds the stack as they did. -/
theorem foldl_renders {indent : Nat} {fields : Fields K} {lines : List (List Char)}
    (rendered : Renders lang indent fields lines) {context : List (Fields K × String)}
    (freshKeys : FreshKeys context) {before : Fields K}
    (apart : ∀ key ∈ fields.map Prod.fst, key ∉ before.map Prod.fst)
    {stack rest : List (Int × List String)} {top : Int}
    (opened : settled indent stack = (top, context.map Prod.snd) :: rest) :
    ∃ after, lines.foldl (miniLine lang) ⟨plug context before, stack⟩ =
        ⟨plug context (before ++ fields), after⟩ ∧
      settled indent after = (top, context.map Prod.snd) :: rest := by
  have nextApart {key : String} {value : Json K} {fields before : Fields K}
      (fresh : key ∉ fields.map Prod.fst)
      (apart : ∀ other ∈ ((key, value) :: fields).map Prod.fst, other ∉ before.map Prod.fst) :
      ∀ other ∈ fields.map Prod.fst, other ∉ (before ++ [(key, value)]).map Prod.fst := by
    intro other member used
    rw [List.map_append] at used
    rcases List.mem_append.mp used with early | same
    · exact apart other (List.mem_cons_of_mem key member) early
    · have named : other = key := List.mem_singleton.mp same
      exact fresh (named ▸ member)
  have settledAgain (indent : Nat) (stack : List (Int × List String)) :
      settled indent (settled indent stack) = settled indent stack :=
    settled_settled le_rfl stack
  induction rendered generalizing context before stack rest top with
  | done =>
      refine ⟨stack, ?_, opened⟩
      rw [List.append_nil]
      rfl
  | filler filled later ih =>
      rw [List.foldl_cons, miniLine_filler filled]
      exact ih freshKeys apart opened
  | @leaf indent key value fields text line lines keyText fresh leafText entry later ih =>
      have read := entry.read keyText (Or.inr leafText.bare)
      have unused : key ∉ before.map Prod.fst := apart key List.mem_cons_self
      rw [List.foldl_cons, miniLine_leaf freshKeys opened read leafText.bare.filled unused,
        parseScalar_leaf leafText]
      obtain ⟨after, ran, left⟩ := ih freshKeys (nextApart fresh apart)
        ((settledAgain indent stack).trans opened)
      refine ⟨after, ?_, left⟩
      rw [ran, List.append_assoc, List.singleton_append]
  | @nested indent deeper key inner fields line innerLines lines keyText fresh entry inside
      innerRendered later ihInner ih =>
      have read := entry.read keyText (Or.inl rfl)
      have unused : key ∉ before.map Prod.fst := apart key List.mem_cons_self
      have innerKeys : FreshKeys (context ++ [(before, key)]) := by
        intro frame member
        rcases List.mem_append.mp member with outer | last
        · exact freshKeys frame outer
        · rw [List.mem_singleton.mp last]
          exact unused
      have innerOpened : settled deeper (((indent : Int),
          (context ++ [(before, key)]).map Prod.snd) :: settled indent stack) =
          ((indent : Int), (context ++ [(before, key)]).map Prod.snd) ::
            settled indent stack := by
        have stays : ¬(deeper : Int) ≤ (indent : Int) := by omega
        rw [settled, List.dropWhile_cons, decide_eq_false stays, if_neg Bool.false_ne_true]
      have none : ∀ other ∈ inner.map Prod.fst,
          other ∉ ([] : Fields K).map Prod.fst := by
        intro other _ member
        cases member
      obtain ⟨between, ranInner, leftInner⟩ := ihInner innerKeys none innerOpened
      have outerOpened : settled indent between = (top, context.map Prod.snd) :: rest := by
        rw [← settled_settled inside.le between, leftInner, settled, List.dropWhile_cons,
          if_pos (decide_eq_true le_rfl)]
        exact (settledAgain indent stack).trans opened
      obtain ⟨after, ran, left⟩ := ih freshKeys (nextApart fresh apart) outerOpened
      refine ⟨after, ?_, left⟩
      rw [List.foldl_cons, miniLine_nested freshKeys opened read unused, List.foldl_append,
        ranInner, List.nil_append, plug_append, ran, List.append_assoc, List.singleton_append]

end Stack

section RoundTrip

variable {lang} {indent : Nat} {fields : Fields K} {lines : List (List Char)}

theorem Renders.oneLine (rendered : Renders lang indent fields lines) :
    ∀ line ∈ lines, OneLine line := by
  induction rendered with
  | done =>
      intro line member
      cases member
  | filler filled later ih =>
      intro line member
      rcases List.mem_cons.mp member with same | after
      · exact same ▸ filled.oneLine
      · exact ih line after
  | leaf keyText fresh leafText entry later ih =>
      intro line member
      rcases List.mem_cons.mp member with same | after
      · exact same ▸ entry.oneLine keyText (Or.inr leafText.bare)
      · exact ih line after
  | nested keyText fresh entry inside innerRendered later ihInner ih =>
      intro line member
      rcases List.mem_cons.mp member with same | after
      · exact same ▸ entry.oneLine keyText (Or.inl rfl)
      · rcases List.mem_append.mp after with inner | outer
        · exact ihInner line inner
        · exact ih line outer

/-- The parser reads a rendering as the mapping that is rendered. -/
theorem miniYaml_renders (rendered : Renders lang indent fields lines) {text : String}
    (joined : Joined lines text.toList) : miniYaml lang text = fields := by
  have split := splitLines_joined joined rendered.oneLine
  have apart : ∀ key ∈ fields.map Prod.fst, key ∉ ([] : Fields K).map Prod.fst := by
    intro key _ member
    cases member
  have opened : settled indent [(-1, [])] = [((-1 : Int), ([] : List String))] := by
    have stays : ¬(indent : Int) ≤ -1 := by omega
    rw [settled, List.dropWhile_cons, decide_eq_false stays, if_neg Bool.false_ne_true]
  have freshKeys : FreshKeys ([] : List (Fields K × String)) := by
    intro frame member
    cases member
  obtain ⟨after, ran, _⟩ := foldl_renders rendered freshKeys apart opened
  rw [miniYaml, split, miniStart]
  exact congrArg MiniState.root ran

theorem lowered_clip : String.ofList ("clip".toList.map Char.toLower) = "clip" := by decide

theorem lowered_reject : String.ofList ("reject".toList.map Char.toLower) = "reject" := by decide

/-- `int` and `float` at the numbers of the configuration below. -/
def benchLanguage : Language ℚ where
  parseFloat := fun text =>
    if text = "0.25" then some (1 / 4) else if text = "1" then some 1 else none
  parseInt := fun text => if text = "1" then some 1 else none
  parseFlag := fun _ => none
  notANumber := 0
  print := fun _ => ""
  repr := fun _ => ""
  lower := fun text => String.ofList (text.toList.map Char.toLower)
  lower_clip := lowered_clip
  lower_reject := lowered_reject

def benchText : String :=
  "# bench\nworkspace:   # box\n  x: [0.25, 1]\n\n  action: clip\nname: bench"

def benchFields : Fields ℚ :=
  [("workspace", .obj [("x", .arr [.num (1 / 4), .int 1]), ("action", .str "clip")]),
    ("name", .str "bench")]

def benchLines : List (List Char) :=
  ["# bench".toList, "workspace:   # box".toList, "  x: [0.25, 1]".toList, [],
    "  action: clip".toList, "name: bench".toList]

theorem blank_spaces (n : Nat) : Blank (List.replicate n ' ') := by
  intro c member
  rw [List.eq_of_mem_replicate member]
  exact ⟨rfl, rfl⟩

theorem entry_spaced (indent : Nat) (key : String) (value : List Char) {note : List Char}
    (noted : Note note) : Entry indent key value
      (List.replicate indent ' ' ++ (key.toList ++ ':' :: ' ' :: (value ++ note))) :=
  .line (blank_spaces indent) List.length_replicate (blank_spaces 0) (blank_spaces 1)
    (blank_spaces 0) noted

theorem keyText_bench : ∀ key ∈ ["workspace", "x", "action", "name"], KeyText key := by
  have facts : ∀ key ∈ ["workspace", "x", "action", "name"],
      key.toList ≠ [] ∧ Text.strip key.toList = key.toList ∧
        key.toList.all (fun c => !lineBreak c) = true ∧ '#' ∉ key.toList ∧
        ':' ∉ key.toList := by
    decide +kernel
  intro key member
  obtain ⟨filled, stripped, line, unmarked, uncut⟩ := facts key member
  exact ⟨⟨filled, stripped, oneLine_of_all line, unmarked⟩, uncut⟩

theorem word_bench : ∀ word ∈ ["clip", "bench"], Word benchLanguage word := by
  have facts : ∀ word ∈ ["clip", "bench"],
      (word.toList ≠ [] ∧ Text.strip word.toList = word.toList ∧
        word.toList.all (fun c => !lineBreak c) = true ∧ '#' ∉ word.toList) ∧
      ('"' ∉ word.toList ∧ '\'' ∉ word.toList) ∧
      ('[' ∉ word.toList ∧ ']' ∉ word.toList ∧ ',' ∉ word.toList) ∧
      (lowered word.toList ≠ "true".toList ∧ lowered word.toList ≠ "false".toList) ∧
      benchLanguage.parseInt word = none ∧ benchLanguage.parseFloat word = none := by
    decide +kernel
  intro word member
  obtain ⟨⟨filled, stripped, line, unmarked⟩, unquoted, unlisted, notTruth, notInt, notFloat⟩ :=
    facts word member
  exact ⟨⟨filled, stripped, oneLine_of_all line, unmarked⟩, unquoted, unlisted, notTruth,
    notInt, notFloat⟩

theorem bench_items :
    ItemsText benchLanguage [.num (1 / 4), .int 1] "0.25, 1".toList := by
  have quarter : AtomText benchLanguage (.num (1 / 4)) "0.25".toList :=
    .decimal ⟨by decide, forall_of_all (by decide +kernel)⟩ (by decide)
      (by rw [String.ofList_toList]; rfl)
  have one : AtomText benchLanguage (.int 1) "1".toList :=
    .int ⟨by decide, forall_of_all (by decide +kernel)⟩ (by decide)
  exact .more (blank_spaces 0) quarter (blank_spaces 0)
    (.last (blank_spaces 1) one (blank_spaces 0))

theorem bench_renders : Renders benchLanguage 0 benchFields benchLines := by
  have heading : Filler "# bench".toList :=
    .line (blank_spaces 0) (.comment (oneLine_of_all (by decide)))
  have box : Note "# box".toList := .comment (oneLine_of_all (by decide))
  have keyed (key : String) (member : key ∈ ["workspace", "x", "action", "name"]) :
      KeyText key := keyText_bench key member
  have clip : LeafText benchLanguage (.str "clip") "clip".toList :=
    .atom (.word (word_bench "clip" (by decide)))
  have bench : LeafText benchLanguage (.str "bench") "bench".toList :=
    .atom (.word (word_bench "bench" (by decide)))
  refine .filler heading (.nested (keyed "workspace" (by decide)) (by decide)
    (.line (blank_spaces 0) rfl (blank_spaces 0) (blank_spaces 3) (blank_spaces 0) box)
    (by decide : 0 < 2)
    (.leaf (keyed "x" (by decide)) (by decide) (.list bench_items)
      (entry_spaced 2 "x" "[0.25, 1]".toList .none)
      (.filler (.line (blank_spaces 0) .none)
        (.leaf (keyed "action" (by decide)) (by decide) clip
          (entry_spaced 2 "action" "clip".toList .none) .done)))
    (.leaf (keyed "name" (by decide)) (by decide) bench
      (entry_spaced 0 "name" "bench".toList .none) .done))

theorem bench_joined : Joined benchLines benchText.toList :=
  .feed (.feed (.feed (.feed (.feed (.last (by decide))))))

theorem miniYaml_renders_bench : miniYaml benchLanguage benchText = benchFields :=
  miniYaml_renders bench_renders bench_joined

end RoundTrip

end FlexivControl
