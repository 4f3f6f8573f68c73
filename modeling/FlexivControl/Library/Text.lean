/-
Texts as lists of characters: their ends stripped, their lines, and a line cut at a
separator.

What is stripped is given by a predicate. The lines of a text end at the characters that
end a line, a carriage return and the line feed after it counting as one end.
-/

import Mathlib.Data.List.DropRight
import Mathlib.Data.List.Forall2

namespace Text

section Trim

variable {α : Type} (p : α → Bool)

/-- Without what satisfies `p` at either end. -/
def trim (xs : List α) : List α := (xs.dropWhile p).rdropWhile p

theorem trim_length_le (xs : List α) : (trim p xs).length ≤ xs.length := by
  have right := (List.rdropWhile_prefix p (xs.dropWhile p)).length_le
  have left := (List.dropWhile_suffix (l := xs) p).length_le
  exact right.trans left

variable {p}

theorem rdropWhile_append_of_all {xs ys : List α} (all : ∀ y ∈ ys, p y = true) :
    (xs ++ ys).rdropWhile p = xs.rdropWhile p := by
  unfold List.rdropWhile
  rw [List.reverse_append, List.dropWhile_append_of_pos]
  intro y member
  exact all y (List.mem_reverse.mp member)

theorem rdropWhile_append_cons {x : α} (kept : p x = false) (xs ys : List α) :
    (xs ++ x :: ys).rdropWhile p = xs ++ x :: ys.rdropWhile p := by
  have stops : ((xs ++ x :: ys).reverse).dropWhile p =
      ys.reverse.dropWhile p ++ x :: xs.reverse := by
    rw [List.reverse_append, List.reverse_cons, List.append_assoc, List.dropWhile_append]
    cases rest : ys.reverse.dropWhile p with
    | nil =>
        rw [List.isEmpty_nil, if_pos rfl, List.singleton_append, List.dropWhile_cons, kept,
          if_neg Bool.false_ne_true, List.nil_append]
    | cons y more =>
        rw [List.isEmpty_cons, if_neg Bool.false_ne_true]
        rfl
  unfold List.rdropWhile
  rw [stops, List.reverse_append, List.reverse_cons, List.reverse_reverse, List.append_assoc,
    List.singleton_append]

theorem trim_append_left {xs : List α} (all : ∀ x ∈ xs, p x = true) (ys : List α) :
    trim p (xs ++ ys) = trim p ys := by
  rw [trim, trim, List.dropWhile_append_of_pos all]

theorem trim_append_right (xs : List α) {ys : List α} (all : ∀ y ∈ ys, p y = true) :
    trim p (xs ++ ys) = trim p xs := by
  rw [trim, trim, List.dropWhile_append]
  cases rest : xs.dropWhile p with
  | nil =>
      rw [List.isEmpty_nil, if_pos rfl, List.dropWhile_eq_nil_iff.mpr all]
  | cons x more =>
      rw [List.isEmpty_cons, if_neg Bool.false_ne_true, rdropWhile_append_of_all all]

theorem trim_all {xs : List α} (all : ∀ x ∈ xs, p x = true) : trim p xs = [] := by
  rw [trim, List.dropWhile_eq_nil_iff.mpr all, List.rdropWhile_nil]

/-- Nothing to strip when nothing satisfies `p`. -/
theorem trim_none {xs : List α} (none : ∀ x ∈ xs, p x = false) : trim p xs = xs := by
  have left : xs.dropWhile p = xs := by
    cases xs with
    | nil => rfl
    | cons x rest =>
        rw [List.dropWhile_cons, none x List.mem_cons_self, if_neg Bool.false_ne_true]
  rw [trim, left, List.rdropWhile_eq_self_iff]
  intro filled satisfied
  rw [none _ (List.getLast_mem filled)] at satisfied
  cases satisfied

/-- A stripped list begins with what is not stripped. -/
theorem head_of_trim {x : α} {xs : List α} (stripped : trim p (x :: xs) = x :: xs) :
    p x = false := by
  cases satisfied : p x with
  | false => rfl
  | true =>
      have shorter := trim_length_le p xs
      have dropped : trim p (x :: xs) = trim p xs := by
        rw [trim, trim, List.dropWhile_cons, satisfied, if_pos rfl]
      rw [← dropped, stripped, List.length_cons] at shorter
      omega

theorem trim_append_cons {x : α} {xs : List α} (stripped : trim p (x :: xs) = x :: xs)
    {left : List α} (all : ∀ a ∈ left, p a = true) (rest : List α) :
    trim p (left ++ (x :: xs ++ rest)) = (x :: xs ++ rest).rdropWhile p := by
  rw [trim_append_left all, trim, List.cons_append, List.dropWhile_cons, head_of_trim stripped,
    if_neg Bool.false_ne_true]

/-- Stripping the end before a cut changes nothing that stripping after it leaves. -/
theorem trim_takeWhile_rdropWhile (q : α → Bool) (xs : List α) :
    trim p ((xs.rdropWhile p).takeWhile q) = trim p (xs.takeWhile q) := by
  have parts : xs.rdropWhile p ++ xs.rtakeWhile p = xs := List.rdropWhile_append_rtakeWhile
  have cut : xs.takeWhile q = (xs.rdropWhile p ++ xs.rtakeWhile p).takeWhile q := by rw [parts]
  rw [cut, List.takeWhile_append]
  split
  · rename_i whole
    have same : (xs.rdropWhile p).takeWhile q = xs.rdropWhile p :=
      (List.takeWhile_prefix q).eq_of_length whole
    have stripped : ∀ x ∈ (xs.rtakeWhile p).takeWhile q, p x = true := by
      intro x member
      exact List.mem_rtakeWhile_imp ((List.takeWhile_prefix q).subset member)
    rw [same, trim_append_right _ stripped]
  · rfl

end Trim

section Cut

variable {α : Type} [DecidableEq α]

theorem takeWhile_ne {sep : α} {xs : List α} (absent : sep ∉ xs) (rest : List α) :
    (xs ++ sep :: rest).takeWhile (· ≠ sep) = xs := by
  have before : ∀ x ∈ xs, decide (x ≠ sep) = true := by
    intro x member
    rw [decide_eq_true_iff]
    intro same
    exact absent (same ▸ member)
  rw [List.takeWhile_append_of_pos before, List.takeWhile_cons, if_neg (by simp), List.append_nil]

theorem dropWhile_ne {sep : α} {xs : List α} (absent : sep ∉ xs) (rest : List α) :
    (xs ++ sep :: rest).dropWhile (· ≠ sep) = sep :: rest := by
  have before : ∀ x ∈ xs, decide (x ≠ sep) = true := by
    intro x member
    rw [decide_eq_true_iff]
    intro same
    exact absent (same ▸ member)
  rw [List.dropWhile_append_of_pos before, List.dropWhile_cons, if_neg (by simp)]

theorem takeWhile_ne_of_absent {sep : α} {xs : List α} (absent : sep ∉ xs) :
    xs.takeWhile (· ≠ sep) = xs := by
  rw [List.takeWhile_eq_self_iff]
  intro x member
  rw [decide_eq_true_iff]
  intro same
  exact absent (same ▸ member)

/-- `text.partition(sep)`, without the separator. -/
def partition (sep : α) (xs : List α) : List α × List α :=
  (xs.takeWhile (· ≠ sep), (xs.dropWhile (· ≠ sep)).drop 1)

theorem partition_append {sep : α} {xs : List α} (absent : sep ∉ xs) (rest : List α) :
    partition sep (xs ++ sep :: rest) = (xs, rest) := by
  rw [partition, takeWhile_ne absent, dropWhile_ne absent]
  rfl

theorem length_le_of_mem_splitOn {sep : α} {xs piece : List α}
    (member : piece ∈ xs.splitOn sep) : piece.length ≤ xs.length := by
  induction xs generalizing piece with
  | nil =>
      rw [List.splitOn_nil, List.mem_singleton] at member
      rw [member]
  | cons x xs ih =>
      rw [List.splitOn_cons_eq_if_modifyHead] at member
      split at member
      · rcases List.mem_cons.mp member with same | later
        · rw [same]
          exact Nat.zero_le _
        · exact (ih later).trans (Nat.le_succ _)
      · cases pieces : xs.splitOn sep with
        | nil => exact absurd pieces (List.splitOn_ne_nil sep xs)
        | cons first others =>
            rw [pieces, List.modifyHead_cons] at member
            rcases List.mem_cons.mp member with same | later
            · have shorter := ih (pieces ▸ List.mem_cons_self)
              rw [same, List.length_cons, List.length_cons]
              omega
            · exact (ih (pieces ▸ List.mem_cons_of_mem first later)).trans (Nat.le_succ _)

theorem splitOn_append_left {sep : α} {xs : List α} (absent : sep ∉ xs) (ys : List α) :
    (xs ++ ys).splitOn sep = (ys.splitOn sep).modifyHead (xs ++ ·) := by
  induction xs with
  | nil =>
      cases pieces : ys.splitOn sep with
      | nil => exact absurd pieces (List.splitOn_ne_nil sep ys)
      | cons first others => rw [List.nil_append, pieces, List.modifyHead_cons, List.nil_append]
  | cons x xs ih =>
      have other : (x == sep) = false := by
        rw [beq_eq_false_iff_ne]
        intro same
        exact absent (same ▸ List.mem_cons_self)
      rw [List.cons_append, List.splitOn_cons_eq_if_modifyHead, other,
        if_neg Bool.false_ne_true, ih fun member => absent (List.mem_cons_of_mem x member)]
      cases ys.splitOn sep with
      | nil => rfl
      | cons first others => rfl

/-- What is appended without a separator goes to the last piece, all others stay. -/
theorem splitOn_append_right {sep : α} (xs : List α) {ys : List α} (absent : sep ∉ ys) :
    List.Forall₂ (fun longer piece => longer = piece ∨ longer = piece ++ ys)
      ((xs ++ ys).splitOn sep) (xs.splitOn sep) := by
  induction xs with
  | nil =>
      rw [List.nil_append, List.splitOn_eq_singleton absent, List.splitOn_nil]
      exact .cons (Or.inr rfl) .nil
  | cons x xs ih =>
      rw [List.cons_append, List.splitOn_cons_eq_if_modifyHead,
        List.splitOn_cons_eq_if_modifyHead]
      generalize (xs ++ ys).splitOn sep = longer, xs.splitOn sep = pieces at ih ⊢
      split
      · exact .cons (Or.inl rfl) ih
      · cases ih with
        | nil => exact .nil
        | cons first others =>
            refine .cons ?_ others
            rcases first with same | same
            · exact Or.inl (congrArg (x :: ·) same)
            · exact Or.inr (congrArg (x :: ·) same)

/-- The pieces of a stripped list are those of the list, up to stripping. -/
theorem splitOn_trim {p : α → Bool} {sep : α} (kept : p sep = false) (xs : List α) :
    ((trim p xs).splitOn sep).map (trim p) = (xs.splitOn sep).map (trim p) := by
  have outside {ys : List α} (all : ∀ y ∈ ys, p y = true) : sep ∉ ys := by
    intro member
    rw [all sep member] at kept
    cases kept
  have right (ys : List α) : ((ys.rdropWhile p).splitOn sep).map (trim p) =
      (ys.splitOn sep).map (trim p) := by
    have stripped : ∀ y ∈ ys.rtakeWhile p, p y = true := by
      intro y member
      exact List.mem_rtakeWhile_imp member
    have pieces := splitOn_append_right (ys.rdropWhile p) (outside stripped)
    have parts : ys.rdropWhile p ++ ys.rtakeWhile p = ys := List.rdropWhile_append_rtakeWhile
    rw [parts] at pieces
    rw [← List.forall₂_eq_eq_eq, List.forall₂_map_left_iff, List.forall₂_map_right_iff]
    refine pieces.flip.imp ?_
    intro piece longer same
    rcases same with same | same
    · rw [same]
    · rw [same, trim_append_right piece stripped]
  have left : (xs.splitOn sep).map (trim p) =
      ((xs.dropWhile p).splitOn sep).map (trim p) := by
    have stripped : ∀ x ∈ xs.takeWhile p, p x = true := by
      intro x member
      exact List.mem_takeWhile_imp member
    have parts : xs.splitOn sep = (xs.takeWhile p ++ xs.dropWhile p).splitOn sep := by
      rw [List.takeWhile_append_dropWhile]
    rw [parts, splitOn_append_left (outside stripped)]
    cases (xs.dropWhile p).splitOn sep with
    | nil => rfl
    | cons first others =>
        rw [List.modifyHead_cons, List.map_cons, trim_append_left stripped, List.map_cons]
  rw [left]
  exact right (xs.dropWhile p)

end Cut

/-- What `str.isspace` holds of. -/
def space (c : Char) : Bool :=
  let n := c.toNat
  (9 ≤ n && n ≤ 13) || (28 ≤ n && n ≤ 32) || n = 0x85 || n = 0xa0 || n = 0x1680 ||
    (0x2000 ≤ n && n ≤ 0x200a) || n = 0x2028 || n = 0x2029 || n = 0x202f || n = 0x205f ||
    n = 0x3000

def lineBreak (c : Char) : Bool :=
  let n := c.toNat
  (10 ≤ n && n ≤ 13) || (28 ≤ n && n ≤ 30) || n = 0x85 || n = 0x2028 || n = 0x2029

def lstrip (text : List Char) : List Char := text.dropWhile space

def strip (text : List Char) : List Char := trim space text

/-- `str.splitlines`, with the part of the current line that is already read. -/
def splitLinesFrom (line : List Char) : List Char → List (List Char)
  | [] => if line = [] then [] else [line]
  | '\r' :: '\n' :: rest => line :: splitLinesFrom [] rest
  | c :: rest =>
      if lineBreak c then line :: splitLinesFrom [] rest else splitLinesFrom (line ++ [c]) rest

def splitLines (text : List Char) : List (List Char) := splitLinesFrom [] text

/-- The lines of a text that is written line by line; the last one need not be ended. -/
inductive Joined : List (List Char) → List Char → Prop where
  | none : Joined [] []
  | last {line : List Char} (filled : line ≠ []) : Joined [line] line
  | feed {line text : List Char} {lines : List (List Char)} (later : Joined lines text) :
      Joined (line :: lines) (line ++ '\n' :: text)
  | returned {line text : List Char} {lines : List (List Char)} (later : Joined lines text) :
      Joined (line :: lines) (line ++ '\r' :: '\n' :: text)

theorem splitLinesFrom_cons {c : Char} (inside : lineBreak c = false) (line rest : List Char) :
    splitLinesFrom line (c :: rest) = splitLinesFrom (line ++ [c]) rest := by
  have other : c ≠ '\r' := by
    intro same
    rw [same] at inside
    cases inside
  rw [splitLinesFrom, inside, if_neg Bool.false_ne_true]
  intro more same
  exact absurd same other

theorem splitLinesFrom_append {piece : List Char} (inside : ∀ c ∈ piece, lineBreak c = false)
    (line rest : List Char) :
    splitLinesFrom line (piece ++ rest) = splitLinesFrom (line ++ piece) rest := by
  induction piece generalizing line with
  | nil => rw [List.nil_append, List.append_nil]
  | cons c piece ih =>
      rw [List.cons_append, splitLinesFrom_cons (inside c List.mem_cons_self),
        ih fun d member => inside d (List.mem_cons_of_mem c member), List.append_assoc,
        List.singleton_append]

theorem splitLines_joined {lines : List (List Char)} {text : List Char}
    (joined : Joined lines text)
    (inside : ∀ line ∈ lines, ∀ c ∈ line, lineBreak c = false) : splitLines text = lines := by
  unfold splitLines
  induction joined with
  | none => rfl
  | @last line filled =>
      have whole := splitLinesFrom_append (inside line List.mem_cons_self) [] []
      rw [List.append_nil, List.nil_append] at whole
      rw [whole, splitLinesFrom, if_neg filled]
  | @feed line text lines later ih =>
      rw [splitLinesFrom_append (inside line List.mem_cons_self), List.nil_append]
      exact congrArg (line :: ·) (ih fun other member =>
        inside other (List.mem_cons_of_mem line member))
  | @returned line text lines later ih =>
      rw [splitLinesFrom_append (inside line List.mem_cons_self), List.nil_append]
      exact congrArg (line :: ·) (ih fun other member =>
        inside other (List.mem_cons_of_mem line member))

end Text
