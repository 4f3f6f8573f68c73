/-
The daemon's receive loop: what it makes of a byte stream, however the stream is cut.

The loop is the reader of `Lines` with the answering of one line as its step. A stop
request ends it before the next piece is received; a line that ends the process, or that
nothing defines, ends it at once.
-/

import FlexivControl.Library.Lines
import FlexivControl.Realtime.Network

namespace FlexivControl

open Lines

variable {K : Type} [Scalar K]

def newline : UInt8 := 10

structure RecvChunk where
  bytes : List UInt8
  received : bytes ≠ []
  fits : bytes.length ≤ 4096

/-- The lines parsed so far, with what became of each. -/
structure NetworkThread (K : Type) [Scalar K] where
  lines : List (List UInt8) := []
  outcomes : List (LineOutcome K) := []
  stopping : Bool := false
  dead : Bool := false

def NetworkThread.closed (net : NetworkThread K) : Bool := net.stopping || net.dead

def NetworkThread.published (net : NetworkThread K) : List (SetPoint K) :=
  net.outcomes.filterMap (·.published)

def NetworkThread.replies (net : NetworkThread K) : List (Json K) :=
  net.outcomes.flatMap (·.replies)

section Loop

variable (parse : List UInt8 → Except (Option String) (Json K)) (env : Nat → LineEnv K)

/-- The body of the inner loop; line `i` finds the robot and the clock as `env i`. -/
def NetworkThread.handleLine (net : NetworkThread K) (line : List UInt8) : NetworkThread K :=
  if line.isEmpty then net
  else
    let outcome := answerLine parse (env net.lines.length) line
    { lines := net.lines ++ [line]
      outcomes := net.outcomes ++ [outcome]
      stopping := net.stopping || outcome.stops
      dead := outcome.fatal }

/-- One client's connection: the thread when the pieces are used up or it has ended, with
what is left in its buffer. -/
def serveClient (chunks : List RecvChunk) : NetworkThread K × List UInt8 :=
  feedAll (NetworkThread.handleLine parse env) NetworkThread.dead NetworkThread.closed newline {}
    (chunks.map (·.bytes))

/-! ### What is asked of it -/

/-- The lines to be parsed: terminated and not empty. -/
def requestLines (stream : List UInt8) : List (List UInt8) :=
  (terminated newline stream).filter fun line => !line.isEmpty

def outcomesFrom (i : Nat) : List (List UInt8) → List (LineOutcome K)
  | [] => []
  | line :: lines => answerLine parse (env i) line :: outcomesFrom (i + 1) lines

/-- The lines are parsed in order, each once, and answered in order: all of them, or those
up to a stop request and perhaps some more. -/
structure FramesFaithfully (stream : List UInt8) (net : NetworkThread K) (rest : List UInt8) :
    Prop where
  inOrder : net.lines <+: requestLines stream
  answered : net.outcomes = outcomesFrom parse env 0 net.lines
  complete : net.stopping = true ∨ net.lines = requestLines stream
  stopped : net.stopping = true → ∃ outcome ∈ net.outcomes, outcome.stops = true
  tail : net.closed = false → rest = remainder newline stream

/-- However the stream is cut, it is framed faithfully; two ways of cutting it make the
thread publish and reply the same, up to where one of them is stopped. -/
structure FramingIndependent (stream : List UInt8) : Prop where
  faithful : ∀ chunks : List RecvChunk, (chunks.map (·.bytes)).flatten = stream →
    FramesFaithfully parse env stream (serveClient parse env chunks).1
      (serveClient parse env chunks).2
  alike : ∀ chunks chunks' : List RecvChunk, (chunks.map (·.bytes)).flatten = stream →
    (chunks'.map (·.bytes)).flatten = stream →
    (serveClient parse env chunks).1.outcomes <+: (serveClient parse env chunks').1.outcomes ∨
      (serveClient parse env chunks').1.outcomes <+: (serveClient parse env chunks).1.outcomes
  same : ∀ chunks chunks' : List RecvChunk, (chunks.map (·.bytes)).flatten = stream →
    (chunks'.map (·.bytes)).flatten = stream →
    (serveClient parse env chunks).1.stopping = false →
    (serveClient parse env chunks').1.stopping = false →
    (serveClient parse env chunks).1.published = (serveClient parse env chunks').1.published ∧
      (serveClient parse env chunks).1.replies = (serveClient parse env chunks').1.replies

/-- A line that ends the process is the last one, or a stop request comes before it. -/
def EndsLast (outcomes : List (LineOutcome K)) : Prop :=
  ∀ before outcome after, outcomes = before ++ outcome :: after → outcome.fatal = true →
    after = [] ∨ ∃ earlier ∈ before, earlier.stops = true

variable {parse env}

theorem outcomesFrom_append (lines more : List (List UInt8)) :
    ∀ i, outcomesFrom parse env i (lines ++ more) =
      outcomesFrom parse env i lines ++ outcomesFrom parse env (i + lines.length) more := by
  induction lines with
  | nil => exact fun i => rfl
  | cons line lines ih =>
      intro i
      rw [List.cons_append, outcomesFrom, ih (i + 1), outcomesFrom, List.cons_append,
        List.length_cons, Nat.add_right_comm, Nat.add_assoc]

theorem outcomesFrom_length (lines : List (List UInt8)) :
    ∀ i, (outcomesFrom parse env i lines).length = lines.length := by
  induction lines with
  | nil => exact fun i => rfl
  | cons line lines ih =>
      intro i
      rw [outcomesFrom, List.length_cons, ih (i + 1), List.length_cons]

/-- The thread after these lines: it has parsed them all and lives, or it died on the last
one it parsed. -/
structure NetworkThread.HasHandled (parse : List UInt8 → Except (Option String) (Json K))
    (env : Nat → LineEnv K) (net : NetworkThread K) (lines : List (List UInt8)) : Prop where
  inOrder : net.lines <+: lines.filter fun line => !line.isEmpty
  answered : net.outcomes = outcomesFrom parse env 0 net.lines
  stops : net.stopping = net.outcomes.any (·.stops)
  alive : net.dead = false → net.lines = lines.filter (fun line => !line.isEmpty) ∧
    ∀ outcome ∈ net.outcomes, outcome.fatal = false
  died : net.dead = true → ∃ before outcome, net.outcomes = before ++ [outcome] ∧
    outcome.fatal = true ∧ ∀ earlier ∈ before, earlier.fatal = false

theorem NetworkThread.handled_nil : (({} : NetworkThread K)).HasHandled parse env [] where
  inOrder := List.prefix_rfl
  answered := rfl
  stops := rfl
  alive := by
    intro _
    refine ⟨rfl, ?_⟩
    intro outcome member
    cases member
  died := by
    intro dead
    cases dead

theorem NetworkThread.HasHandled.line {net : NetworkThread K} {lines : List (List UInt8)}
    (handled : net.HasHandled parse env lines) (line : List UInt8) :
    (if net.dead then net else net.handleLine parse env line).HasHandled parse env
      (lines ++ [line]) := by
  cases dead : net.dead with
  | true =>
      refine ⟨?_, handled.answered, handled.stops, ?_, handled.died⟩
      · rw [if_pos rfl, List.filter_append]
        exact handled.inOrder.trans (List.prefix_append _ _)
      · intro alive
        cases dead.symm.trans alive
  | false =>
      rw [if_neg Bool.false_ne_true]
      obtain ⟨whole, spared⟩ := handled.alive dead
      unfold handleLine
      cases empty : line.isEmpty with
      | true =>
          rw [if_pos rfl]
          have same : (lines ++ [line]).filter (fun line => !line.isEmpty) =
              lines.filter fun line => !line.isEmpty := by
            rw [List.filter_append, List.filter_cons_of_neg (by rw [empty]; decide),
              List.filter_nil, List.append_nil]
          exact ⟨by rw [same]; exact handled.inOrder, handled.answered, handled.stops,
            by rw [same]; exact handled.alive, handled.died⟩
      | false =>
          rw [if_neg Bool.false_ne_true]
          have longer : (lines ++ [line]).filter (fun line => !line.isEmpty) =
              net.lines ++ [line] := by
            rw [List.filter_append, ← whole, List.filter_cons_of_pos (by rw [empty]; rfl),
              List.filter_nil]
          have outcomes : net.outcomes ++ [answerLine parse (env net.lines.length) line] =
              outcomesFrom parse env 0 (net.lines ++ [line]) := by
            rw [outcomesFrom_append, ← handled.answered, Nat.zero_add]
            rfl
          refine ⟨by rw [longer], outcomes, ?_, ?_, ?_⟩
          · dsimp only
            rw [List.any_append, ← handled.stops, List.any_cons, List.any_nil, Bool.or_false]
          · intro alive
            refine ⟨longer.symm, ?_⟩
            intro outcome member
            rcases List.mem_append.mp member with earlier | last
            · exact spared outcome earlier
            · exact List.mem_singleton.mp last ▸ alive
          · exact fun fatal => ⟨net.outcomes, _, rfl, fatal, spared⟩

theorem NetworkThread.HasHandled.lines {net : NetworkThread K} {lines : List (List UInt8)}
    (handled : net.HasHandled parse env lines) (more : List (List UInt8)) :
    (handleAll (NetworkThread.handleLine parse env) NetworkThread.dead net more).HasHandled parse env
      (lines ++ more) := by
  induction more generalizing net lines with
  | nil =>
      rw [List.append_nil]
      exact handled
  | cons line more ih =>
      have rest := ih (handled.line line)
      rw [List.append_assoc, List.singleton_append] at rest
      exact rest

theorem served (parse : List UInt8 → Except (Option String) (Json K)) (env : Nat → LineEnv K)
    (chunks : List RecvChunk) :
    ∃ done left, terminated newline (chunks.map (·.bytes)).flatten = done ++ left ∧
      (serveClient parse env chunks).1.HasHandled parse env done ∧
      ((serveClient parse env chunks).1.closed = true ∨
        (left = [] ∧ (serveClient parse env chunks).2 =
          remainder newline (chunks.map (·.bytes)).flatten)) := by
  have closes : ∀ net : NetworkThread K, net.dead = true → net.closed = true := by
    intro net dead
    rw [NetworkThread.closed, dead, Bool.or_true]
  obtain ⟨done, left, split, reached, finished⟩ :=
    feedAll_lines closes (({} : NetworkThread K)) (chunks.map (·.bytes))
  unfold serveClient
  refine ⟨done, left, split, ?_, ?_⟩
  · rw [reached]
    exact NetworkThread.handled_nil.lines done
  · rw [reached]
    exact finished

theorem requestLines_append {stream : List UInt8} {done left : List (List UInt8)}
    (split : terminated newline stream = done ++ left) :
    requestLines stream = (done.filter fun line => !line.isEmpty) ++
      left.filter fun line => !line.isEmpty := by
  rw [requestLines, split, List.filter_append]

theorem LineOutcome.not_stops_of_fatal {outcome : LineOutcome K} (fatal : outcome.fatal = true) :
    outcome.stops = false := by
  cases outcome with
  | answered handled => cases fatal
  | terminated => rfl
  | undefined => rfl

theorem framesFaithfully_of_endsLast {stream : List UInt8}
    (last : EndsLast (outcomesFrom parse env 0 (requestLines stream))) (chunks : List RecvChunk)
    (cut : (chunks.map (·.bytes)).flatten = stream) :
    FramesFaithfully parse env stream (serveClient parse env chunks).1
      (serveClient parse env chunks).2 := by
  obtain ⟨done, left, split, handled, finished⟩ := served parse env chunks
  rw [cut] at split finished
  have all := requestLines_append split
  have inOrder : (serveClient parse env chunks).1.lines <+: requestLines stream :=
    handled.inOrder.trans (all ▸ List.prefix_append _ _)
  refine ⟨inOrder, handled.answered, ?_, ?_, ?_⟩
  · cases stopping : (serveClient parse env chunks).1.stopping with
    | true => exact Or.inl rfl
    | false =>
        right
        cases dead : (serveClient parse env chunks).1.dead with
        | false =>
            have finished : left = [] := by
              rcases finished with closed | ⟨used, _⟩
              · rw [NetworkThread.closed, stopping, dead] at closed
                cases closed
              · exact used
            rw [all, finished, List.filter_nil, List.append_nil]
            exact (handled.alive dead).1
        | true =>
            obtain ⟨before, outcome, outcomes, fatal, _⟩ := handled.died dead
            obtain ⟨unread, whole⟩ := inOrder
            have later : outcomesFrom parse env 0 (requestLines stream) =
                before ++ outcome ::
                  outcomesFrom parse env (serveClient parse env chunks).1.lines.length unread := by
              rw [← whole, outcomesFrom_append, ← handled.answered, outcomes, List.append_assoc,
                Nat.zero_add]
              rfl
            rcases last before outcome _ later fatal with none | ⟨earlier, member, stops⟩
            · have length := congrArg List.length none
              rw [outcomesFrom_length, List.length_nil, List.length_eq_zero_iff] at length
              rw [← whole, length, List.append_nil]
            · have stopped : (serveClient parse env chunks).1.stopping = true := by
                rw [handled.stops, outcomes]
                exact List.any_eq_true.mpr ⟨earlier, List.mem_append_left _ member, stops⟩
              cases stopping.symm.trans stopped
  · intro stopping
    rw [handled.stops] at stopping
    exact List.any_eq_true.mp stopping
  · intro running
    rcases finished with closed | ⟨_, rest⟩
    · cases running.symm.trans closed
    · exact rest

theorem NetworkThread.HasHandled.fatal_last {net : NetworkThread K} {lines : List (List UInt8)}
    (handled : net.HasHandled parse env lines) {before after : List (LineOutcome K)}
    {outcome : LineOutcome K} (outcomes : net.outcomes = before ++ outcome :: after)
    (fatal : outcome.fatal = true) : after = [] := by
  cases dead : net.dead with
  | false =>
      have spared := (handled.alive dead).2 outcome
        (by rw [outcomes]; exact List.mem_append_right _ List.mem_cons_self)
      cases spared.symm.trans fatal
  | true =>
      obtain ⟨earlier, final, split, _, spared⟩ := handled.died dead
      cases after using List.reverseRecOn with
      | nil => rfl
      | append_singleton after end' _ =>
          have joined : earlier ++ [final] = (before ++ outcome :: after) ++ [end'] := by
            rw [← split, outcomes, List.append_assoc, List.cons_append]
          have same := (List.append_inj' joined rfl).1
          have member : outcome ∈ earlier := by
            rw [same]
            exact List.mem_append_right _ List.mem_cons_self
          cases (spared outcome member).symm.trans fatal

theorem endsLast_of_framesFaithfully {stream : List UInt8} {chunks : List RecvChunk}
    (faithful : FramesFaithfully parse env stream (serveClient parse env chunks).1
      (serveClient parse env chunks).2) :
    EndsLast (outcomesFrom parse env 0 (requestLines stream)) := by
  intro before outcome after outcomes fatal
  obtain ⟨done, left, split, handled, _⟩ := served parse env chunks
  obtain ⟨unread, whole⟩ := faithful.inOrder
  have joined : (serveClient parse env chunks).1.outcomes ++
      outcomesFrom parse env (serveClient parse env chunks).1.lines.length unread =
        before ++ outcome :: after := by
    rw [← outcomes, ← whole, outcomesFrom_append, ← handled.answered, Nat.zero_add]
  rcases faithful.complete with stopping | all
  · right
    obtain ⟨earlier, member, stops⟩ := faithful.stopped stopping
    refine ⟨earlier, ?_, stops⟩
    rcases List.append_eq_append_iff.mp joined with ⟨gap, same, _⟩ | ⟨gap, same, rest⟩
    · rw [same]
      exact List.mem_append_left gap member
    · rw [same] at member
      rcases List.mem_append.mp member with inBefore | inGap
      · exact inBefore
      · cases gap with
        | nil => cases inGap
        | cons first gap =>
            have here : outcome = first := (List.cons.inj rest).1
            have none : gap = [] := handled.fatal_last (by rw [same]) (here ▸ fatal)
            rw [none, List.mem_singleton, ← here] at inGap
            rw [inGap, LineOutcome.not_stops_of_fatal fatal] at stops
            cases stops
  · left
    have complete : (serveClient parse env chunks).1.outcomes = before ++ outcome :: after := by
      rw [handled.answered, all, outcomes]
    exact handled.fatal_last complete fatal

def oneByOne (stream : List UInt8) : List RecvChunk :=
  stream.map fun b => ⟨[b], List.cons_ne_nil b [], Nat.succ_le_of_lt (Nat.succ_pos 4095)⟩

theorem oneByOne_flatten (stream : List UInt8) :
    ((oneByOne stream).map (·.bytes)).flatten = stream := by
  induction stream with
  | nil => rfl
  | cons b stream ih =>
      change b :: ((oneByOne stream).map (·.bytes)).flatten = b :: stream
      rw [ih]

/-- A stream is framed the same however it is cut exactly when the lines that end the
process come last in it or after a stop request. -/
theorem framing_independent_iff (parse : List UInt8 → Except (Option String) (Json K))
    (env : Nat → LineEnv K) (stream : List UInt8) :
    FramingIndependent parse env stream ↔
      EndsLast (outcomesFrom parse env 0 (requestLines stream)) := by
  constructor
  · intro independent
    exact endsLast_of_framesFaithfully
      (independent.faithful (oneByOne stream) (oneByOne_flatten stream))
  · intro last
    have faithful := framesFaithfully_of_endsLast last
    refine ⟨faithful, ?_, ?_⟩
    · intro chunks chunks' cut cut'
      have prefixes {net net' : NetworkThread K} (shorter : net.lines <+: net'.lines)
          (answered : net.outcomes = outcomesFrom parse env 0 net.lines)
          (answered' : net'.outcomes = outcomesFrom parse env 0 net'.lines) :
          net.outcomes <+: net'.outcomes := by
        obtain ⟨more, same⟩ := shorter
        rw [answered, answered', ← same, outcomesFrom_append]
        exact List.prefix_append _ _
      have one := faithful chunks cut
      have other := faithful chunks' cut'
      rcases List.prefix_or_prefix_of_prefix one.inOrder other.inOrder with shorter | longer
      · exact Or.inl (prefixes shorter one.answered other.answered)
      · exact Or.inr (prefixes longer other.answered one.answered)
    · intro chunks chunks' cut cut' running running'
      have whole {chunks : List RecvChunk} (cut : (chunks.map (·.bytes)).flatten = stream)
          (running : (serveClient parse env chunks).1.stopping = false) :
          (serveClient parse env chunks).1.outcomes =
            outcomesFrom parse env 0 (requestLines stream) := by
        have one := faithful chunks cut
        rcases one.complete with stopping | all
        · cases running.symm.trans stopping
        · rw [one.answered, all]
      unfold NetworkThread.published NetworkThread.replies
      rw [whole cut running, whole cut' running']
      exact ⟨rfl, rfl⟩

end Loop

def strayByte : List UInt8 := [255, 10, 123, 125, 10]

def strayParser (line : List UInt8) : Except (Option String) (Json ℝ) :=
  if line = [255] then .error none
  else if line = [123, 125] then .ok (.obj [])
  else .error (some "parse error")

noncomputable def disconnected (_ : Nat) : LineEnv ℝ := ⟨.error (some "not connected"), 0⟩

/-- The daemon ends on the first line, and the second is never parsed. -/
theorem stray_byte_ends_framing : ¬ FramingIndependent strayParser disconnected strayByte := by
  intro independent
  have last := endsLast_of_framesFaithfully
    (independent.faithful (oneByOne strayByte) (oneByOne_flatten strayByte))
  have lines : requestLines strayByte = [[255], [123, 125]] := rfl
  have first : answerLine strayParser (disconnected 0) [255] = .terminated := by
    unfold answerLine
    rw [show strayParser [255] = .error none from if_pos rfl]
    rfl
  have outcomes : outcomesFrom strayParser disconnected 0 (requestLines strayByte) =
      [] ++ .terminated :: [answerLine strayParser (disconnected 1) [123, 125]] := by
    rw [lines, ← first]
    rfl
  rcases last [] .terminated _ outcomes rfl with none | ⟨earlier, member, _⟩
  · cases none
  · cases member

end FlexivControl
