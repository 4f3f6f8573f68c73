/-
A stream cut into lines at a separator, and a reader that is fed the stream in pieces.

A stream has its terminated lines and an unterminated tail in one way only. The reader
keeps the bytes it has not finished and takes the lines off its buffer one at a time, so
it handles the same lines however the stream is cut.
-/

import Mathlib.Data.List.TakeDrop

namespace Lines

variable {α : Type} {sep : α}

/-- The terminated lines of a stream, in order, and what follows the last separator. -/
structure Framed (sep : α) (stream : List α) (lines : List (List α)) (tail : List α) : Prop where
  joined : (lines.map (· ++ [sep])).flatten ++ tail = stream
  whole : ∀ line ∈ lines, sep ∉ line
  unfinished : sep ∉ tail

namespace Framed

theorem tail_only {tail : List α} (unfinished : sep ∉ tail) : Framed sep tail [] tail where
  joined := rfl
  whole := by
    intro line member
    cases member
  unfinished := unfinished

theorem cons {line rest tail : List α} {lines : List (List α)} (whole : sep ∉ line)
    (framed : Framed sep rest lines tail) :
    Framed sep (line ++ sep :: rest) (line :: lines) tail where
  joined := by
    rw [List.map_cons, List.flatten_cons, List.append_assoc, framed.joined, List.append_assoc]
    rfl
  whole := by
    intro other member
    rcases List.mem_cons.mp member with same | later
    · exact same ▸ whole
    · exact framed.whole other later
  unfinished := framed.unfinished

/-- What follows the first line of a framed stream is framed. -/
theorem of_cons {stream line tail : List α} {lines : List (List α)}
    (framed : Framed sep stream (line :: lines) tail) :
    ∃ rest, stream = line ++ sep :: rest ∧ Framed sep rest lines tail := by
  refine ⟨(lines.map (· ++ [sep])).flatten ++ tail, ?_, rfl, ?_, framed.unfinished⟩
  · rw [← framed.joined, List.map_cons, List.flatten_cons, List.append_assoc, List.append_assoc]
    rfl
  · intro other member
    exact framed.whole other (List.mem_cons_of_mem line member)

theorem append {xs ys held tail : List α} {lines more : List (List α)}
    (first : Framed sep xs lines held) (second : Framed sep (held ++ ys) more tail) :
    Framed sep (xs ++ ys) (lines ++ more) tail := by
  induction lines generalizing xs with
  | nil =>
      have same : held = xs := first.joined
      rw [← same]
      exact second
  | cons line lines ih =>
      obtain ⟨rest, same, framed⟩ := first.of_cons
      rw [same, List.append_assoc, List.cons_append, List.cons_append]
      exact Framed.cons (first.whole line List.mem_cons_self) (ih framed)

end Framed

section Handling

variable {σ : Type} (handle : σ → List α → σ) (halted : σ → Bool)

def handleAll (s : σ) (lines : List (List α)) : σ :=
  lines.foldl (fun s line => if halted s then s else handle s line) s

theorem handleAll_halted {s : σ} (stopped : halted s = true) (lines : List (List α)) :
    handleAll handle halted s lines = s := by
  induction lines with
  | nil => rfl
  | cons line lines ih =>
      unfold handleAll
      rw [List.foldl_cons, if_pos stopped]
      exact ih

theorem handleAll_append (s : σ) (lines more : List (List α)) :
    handleAll handle halted s (lines ++ more) =
      handleAll handle halted (handleAll handle halted s lines) more :=
  List.foldl_append

end Handling

variable [DecidableEq α]

def split (sep : α) : List α → List (List α) × List α
  | [] => ([], [])
  | a :: rest =>
      if a = sep then ([] :: (split sep rest).1, (split sep rest).2)
      else
        match (split sep rest).1 with
        | [] => ([], a :: (split sep rest).2)
        | line :: lines => ((a :: line) :: lines, (split sep rest).2)

def terminated (sep : α) (stream : List α) : List (List α) := (split sep stream).1

def remainder (sep : α) (stream : List α) : List α := (split sep stream).2

theorem framed_split (stream : List α) :
    Framed sep stream (terminated sep stream) (remainder sep stream) := by
  unfold terminated remainder
  induction stream with
  | nil => exact Framed.tail_only List.not_mem_nil
  | cons a rest ih =>
      unfold split
      by_cases ends : a = sep
      · rw [if_pos ends, ends]
        exact Framed.cons List.not_mem_nil ih
      · rw [if_neg ends]
        have outside {xs : List α} (absent : sep ∉ xs) : sep ∉ a :: xs := by
          intro member
          rcases List.mem_cons.mp member with same | later
          · exact ends same.symm
          · exact absent later
        cases lines : (split sep rest).1 with
        | nil =>
            have same : (split sep rest).2 = rest := by
              have joined := ih.joined
              rw [lines] at joined
              exact joined
            have tail := outside ih.unfinished
            rw [same] at tail ⊢
            exact Framed.tail_only tail
        | cons line more =>
            rw [lines] at ih
            obtain ⟨later, same, framed⟩ := ih.of_cons
            dsimp only
            have found := Framed.cons (outside (ih.whole line List.mem_cons_self)) framed
            rw [List.cons_append, ← same] at found
            exact found

theorem idxOf?_line {line rest : List α} (whole : sep ∉ line) :
    (line ++ sep :: rest).idxOf? sep = some line.length := by
  induction line with
  | nil => rw [List.nil_append, List.idxOf?_cons, beq_self_eq_true, if_pos rfl, List.length_nil]
  | cons a line ih =>
      have other : (a == sep) = false := by
        rw [beq_eq_false_iff_ne]
        intro same
        exact whole (same ▸ List.mem_cons_self)
      rw [List.cons_append, List.idxOf?_cons, other, if_neg Bool.false_ne_true,
        ih fun member => whole (List.mem_cons_of_mem a member)]
      rfl

/-- A stream is framed in one way. -/
theorem Framed.unique {stream tail tail' : List α} {lines lines' : List (List α)}
    (framed : Framed sep stream lines tail) (other : Framed sep stream lines' tail') :
    lines = lines' ∧ tail = tail' := by
  induction lines generalizing stream lines' with
  | nil =>
      have same : tail = stream := framed.joined
      cases lines' with
      | nil => exact ⟨rfl, same.trans other.joined.symm⟩
      | cons line more =>
          obtain ⟨rest, split, _⟩ := other.of_cons
          have separated : sep ∈ tail := by
            rw [same, split]
            exact List.mem_append_right line List.mem_cons_self
          exact absurd separated framed.unfinished
  | cons line lines ih =>
      obtain ⟨rest, split, later⟩ := framed.of_cons
      cases lines' with
      | nil =>
          have same : tail' = stream := other.joined
          have separated : sep ∈ tail' := by
            rw [same, split]
            exact List.mem_append_right line List.mem_cons_self
          exact absurd separated other.unfinished
      | cons line' lines' =>
          obtain ⟨rest', split', later'⟩ := other.of_cons
          have here : (line ++ sep :: rest).idxOf? sep = some line.length :=
            idxOf?_line (framed.whole line List.mem_cons_self)
          have there : (line' ++ sep :: rest').idxOf? sep = some line'.length :=
            idxOf?_line (other.whole line' List.mem_cons_self)
          rw [← split] at here
          rw [← split', here] at there
          have same := List.append_inj (split.symm.trans split') (Option.some.inj there)
          obtain ⟨first, last⟩ := ih later ((List.cons.inj same.2).2 ▸ later')
          exact ⟨by rw [same.1, first], last⟩

section Reader

variable {σ : Type} (handle : σ → List α → σ) (halted closed : σ → Bool)

/-- Take the lines off the buffer one by one until there is none or the reader halts. -/
def drain (sep : α) (s : σ) (buf : List α) : σ × List α :=
  if halted s then (s, buf)
  else
    match found : buf.idxOf? sep with
    | none => (s, buf)
    | some nl => drain sep (handle s (buf.take nl)) (buf.drop (nl + 1))
termination_by buf.length
decreasing_by
  obtain ⟨inside, _⟩ := List.idxOf?_eq_some_iff.mp found
  rw [List.length_drop]
  omega

def feed (sep : α) (state : σ × List α) (piece : List α) : σ × List α :=
  if closed state.1 then state else drain handle halted sep state.1 (state.2 ++ piece)

def feedAll (sep : α) (s : σ) (pieces : List (List α)) : σ × List α :=
  pieces.foldl (feed handle halted closed sep) (s, [])

theorem drain_framed {buf tail : List α} {lines : List (List α)}
    (framed : Framed sep buf lines tail) (s : σ) :
    (drain handle halted sep s buf).1 = handleAll handle halted s lines ∧
      (halted (handleAll handle halted s lines) = false →
        (drain handle halted sep s buf).2 = tail) := by
  induction lines generalizing buf s with
  | nil =>
      have same : tail = buf := framed.joined
      have none : buf.idxOf? sep = none := List.idxOf?_eq_none_iff.mpr (same ▸ framed.unfinished)
      unfold drain
      split
      · exact ⟨rfl, fun _ => same.symm⟩
      · split
        · exact ⟨rfl, fun _ => same.symm⟩
        · rename_i nl found
          cases none.symm.trans found
  | cons line lines ih =>
      by_cases stopped : halted s = true
      · have ended := handleAll_halted handle halted stopped (line :: lines)
        unfold drain
        rw [if_pos stopped, ended, stopped]
        refine ⟨rfl, ?_⟩
        intro running
        cases running
      · obtain ⟨rest, split, later⟩ := framed.of_cons
        have found : (line ++ sep :: rest).idxOf? sep = some line.length :=
          idxOf?_line (framed.whole line List.mem_cons_self)
        rw [← split] at found
        have first : buf.take line.length = line := by
          rw [split, List.take_left']
          rfl
        have others : buf.drop (line.length + 1) = rest := by
          rw [split, ← List.drop_drop, List.drop_left]
          rfl
        have taken : drain handle halted sep s buf =
            drain handle halted sep (handle s line) rest := by
          rw [drain, if_neg stopped]
          split
          · rename_i none
            cases found.symm.trans none
          · rename_i nl there
            cases found.symm.trans there
            rw [first, others]
        have next : handleAll handle halted s (line :: lines) =
            handleAll handle halted (handle s line) lines := by
          unfold handleAll
          rw [List.foldl_cons, if_neg stopped]
        rw [taken, next]
        exact ih later (handle s line)

variable {handle halted closed}

theorem foldl_feed_closed {state : σ × List α} (ended : closed state.1 = true)
    (pieces : List (List α)) :
    pieces.foldl (feed handle halted closed sep) state = state := by
  induction pieces with
  | nil => rfl
  | cons piece pieces ih =>
      rw [List.foldl_cons, feed, if_pos ended]
      exact ih

theorem foldl_feed_framed (closes : ∀ s, halted s = true → closed s = true)
    (pieces : List (List α)) {s : σ} {buf tail : List α} {lines : List (List α)}
    (held : sep ∉ buf) (framed : Framed sep (buf ++ pieces.flatten) lines tail) :
    ∃ done left, lines = done ++ left ∧
      (pieces.foldl (feed handle halted closed sep) (s, buf)).1 =
        handleAll handle halted s done ∧
      (closed (handleAll handle halted s done) = true ∨
        (left = [] ∧ (pieces.foldl (feed handle halted closed sep) (s, buf)).2 = tail)) := by
  induction pieces generalizing s buf tail lines with
  | nil =>
      rw [List.flatten_nil, List.append_nil] at framed
      obtain ⟨none, same⟩ := framed.unique (Framed.tail_only held)
      exact ⟨[], [], none, rfl, Or.inr ⟨rfl, same.symm⟩⟩
  | cons piece pieces ih =>
      by_cases ended : closed s = true
      · refine ⟨[], lines, rfl, ?_, Or.inl ended⟩
        rw [foldl_feed_closed ended]
        rfl
      · have here : Framed sep (buf ++ piece) _ _ := framed_split (buf ++ piece)
        have later : Framed sep (remainder sep (buf ++ piece) ++ pieces.flatten) _ _ :=
          framed_split _
        have whole := here.append later
        rw [List.append_assoc, ← List.flatten_cons] at whole
        obtain ⟨same, last⟩ := framed.unique whole
        obtain ⟨state, rest⟩ := drain_framed handle halted here s
        rw [List.foldl_cons, feed, if_neg ended]
        by_cases stopped : halted (handleAll handle halted s (terminated sep (buf ++ piece))) = true
        · refine ⟨_, _, same, ?_, Or.inl (closes _ stopped)⟩
          rw [foldl_feed_closed (by rw [state]; exact closes _ stopped), state]
        · have running := Bool.eq_false_iff.mpr stopped
          have next : drain handle halted sep s (buf ++ piece) =
              (handleAll handle halted s (terminated sep (buf ++ piece)),
                remainder sep (buf ++ piece)) := Prod.ext state (rest running)
          obtain ⟨done, left, split, reached, finished⟩ :=
            ih (s := handleAll handle halted s (terminated sep (buf ++ piece)))
              here.unfinished later
          refine ⟨terminated sep (buf ++ piece) ++ done, left, ?_, ?_, ?_⟩
          · rw [same, split, List.append_assoc]
          · rw [next, handleAll_append]
            exact reached
          · rw [next, handleAll_append, last]
            exact finished

/-- However a stream is cut, its reader handles its terminated lines in order, all of them
unless it closes, and then holds on to the tail. -/
theorem feedAll_lines (closes : ∀ s, halted s = true → closed s = true) (s : σ)
    (pieces : List (List α)) :
    ∃ done left, terminated sep pieces.flatten = done ++ left ∧
      (feedAll handle halted closed sep s pieces).1 = handleAll handle halted s done ∧
      (closed (handleAll handle halted s done) = true ∨
        (left = [] ∧ (feedAll handle halted closed sep s pieces).2 =
          remainder sep pieces.flatten)) :=
  foldl_feed_framed closes pieces List.not_mem_nil (framed_split pieces.flatten)

end Reader

end Lines
