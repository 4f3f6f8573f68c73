/-
A call that returns does so with the reply to its own line.

The I/O lock makes the ids of the lines written go up, so no two lines share one; a reply
carries the id of the line it answers, or one no line has. The reply a call accepts is
therefore the one to the line it wrote, however far the replies lag behind.
-/

import FlexivControl.Wire.Client

namespace FlexivControl

open Pool

variable {K : Type}

inductive CallPhase where
  | outside
  | locked
  | loaded (id : Nat)
  | stored (id : Nat)
  | ready (id : Nat)
  | sent
  deriving DecidableEq, Repr

def CallPhase.after : CallPhase → Call (clientOps K) → CallPhase
  | _, ⟨.lockIo, _⟩ => .locked
  | _, ⟨.unlockIo, _⟩ => .outside
  | .locked, ⟨.loadId, id⟩ => .loaded id
  | .stored _, ⟨.loadId, id⟩ => .ready id
  | _, ⟨.storeId id, _⟩ => .stored id
  | _, ⟨.write _, _⟩ => .sent
  | phase, _ => phase

def CallPhase.allows : CallPhase → ClientOp K → Prop
  | phase, .lockIo => phase = .outside
  | phase, .unlockIo => phase ≠ .outside
  | phase, .loadId => phase = .locked ∨ ∃ id, phase = .stored id
  | phase, .storeId id => ∃ last, phase = .loaded last ∧ id = last + 1
  | phase, .write line => phase = .ready line.id
  | _, _ => True

def phases (K : Type) : Monitor (clientOps K) CallPhase where
  observe := CallPhase.after
  admits _ _ := True
  allows := CallPhase.allows

section Calls

theorem wp_raising {α : Type} (answer : Except Exc α)
    (post : Except Exc α → Unit → CallPhase → Prop) (memory : Unit) (phase : CallPhase) :
    Script.wp (phases K) (raising answer) post memory phase ↔ post answer memory phase := by
  cases answer <;> exact Iff.rfl

theorem wp_setTimeoutFor (method : String) (motion : Bool) (memory : Unit) (phase : CallPhase) :
    Script.wp (phases K) (setTimeoutFor method motion) (fun _ _ after => after = phase) memory
      phase := by
  unfold setTimeoutFor
  split
  · refine ⟨trivial, fun answer _ => ?_⟩
    cases answer <;> rfl
  · rfl

theorem wp_transmit (line : RequestLine K) (memory : Unit) :
    Script.wp (phases K) (transmit line) (fun _ _ after => after = .sent) memory
      (.ready line.id) := by
  refine ⟨rfl, fun written _ => ?_⟩
  cases written with
  | error e => rfl
  | ok _ =>
      refine ⟨trivial, fun flushed _ => ?_⟩
      cases flushed with
      | error e => rfl
      | ok _ =>
          refine ⟨trivial, fun read _ => ?_⟩
          cases read <;> rfl

variable [Scalar K] (repr : Json K → String)

theorem wp_converse (line : RequestLine K) (memory : Unit) :
    Script.wp (phases K) (converse repr line) (fun _ _ after => after ≠ .outside) memory
      (.ready line.id) := by
  unfold converse
  rw [Script.wp_bind]
  refine Script.wp_mono (wp_setTimeoutFor line.method true memory _) fun out memory phase here => ?_
  subst here
  cases out with
  | error e => exact nofun
  | ok _ =>
      rw [Script.afterStep_ok, Script.wp_bind, Script.wp_ensuring]
      refine Script.wp_mono (wp_transmit line memory) fun read memory phase here => ?_
      subst here
      refine Script.wp_mono (wp_setTimeoutFor line.method false memory _)
        fun reset memory phase here => ?_
      subst here
      cases reset with
      | error e => exact nofun
      | ok _ =>
          cases read with
          | error e => exact nofun
          | ok line =>
              rw [Script.afterStep_ok, Script.afterStep_ok, wp_raising]
              exact nofun

theorem wp_exchange (method : String) (params : Json K) (memory : Unit) :
    Script.wp (phases K) (exchange repr method params) (fun _ _ after => after ≠ .outside) memory
      .locked := by
  refine ⟨Or.inl rfl, fun last _ => ?_⟩
  refine ⟨⟨last, rfl, rfl⟩, fun _ _ => ?_⟩
  refine ⟨Or.inr ⟨last + 1, rfl⟩, fun rid _ => ?_⟩
  exact wp_converse repr ⟨rid, method, params⟩ memory

theorem wp_call (method : String) (params : Json K) (memory : Unit) :
    Script.wp (phases K) (call repr method params) (fun _ _ after => after = .outside) memory
      .outside := by
  refine ⟨trivial, fun isOpen _ => ?_⟩
  cases isOpen with
  | false => rfl
  | true =>
      refine ⟨rfl, fun _ _ => ?_⟩
      change Script.wp (phases K) (Script.ensuring (exchange repr method params)
        (clientStep .unlockIo) >>= fun resp => raising (replyResult resp))
        (fun _ _ after => after = .outside) memory .locked
      rw [Script.wp_bind, Script.wp_ensuring]
      refine Script.wp_mono (wp_exchange repr method params memory)
        fun out memory phase inside => ?_
      refine ⟨inside, fun _ _ => ?_⟩
      cases out with
      | error e => rfl
      | ok resp =>
          exact (wp_raising (replyResult resp) (fun _ _ after => after = .outside) memory
            .outside).mpr rfl

theorem wp_session {α : Type} (calls : Program (rpcs K) α) :
    (session repr calls).wp (phases K) (fun _ phase => phase = .outside) .outside := by
  induction calls with
  | done a => rfl
  | call rpc next ih =>
      change (call repr rpc.1 rpc.2 () >>= fun out => session repr (next out.1)).wp _ _ _
      rw [Program.wp_bind]
      refine Program.wp_mono (wp_call repr rpc.1 rpc.2 ()) fun out phase left => ?_
      subst left
      exact ih out.1

end Calls

/-! ### The ids on the link -/

variable {ι : Type}

/-- Ids go up from line to line, and a reply carries the id of the line it answers, or
one that no line has. -/
structure Link.Sound (s : Link K ι) : Prop where
  ids : s.written.Pairwise fun earlier later => earlier.id < later.id
  bounded : ∀ line ∈ s.written, line.id ≤ s.nextId
  answers : ∀ n reply, s.Answered n reply →
    ∃ line, s.written[n]? = some line ∧ replyId reply = some (.int line.id)
  strays : ∀ reply, (none, reply) ∈ s.stream → replyId reply = some (.int (-1))

def Link.InPhase (s : Link K ι) (thread : ι) : CallPhase → Prop
  | .outside => True
  | .locked | .sent => s.ioHolder = some thread
  | .loaded id => s.ioHolder = some thread ∧ s.nextId = id
  | .stored id | .ready id =>
      s.ioHolder = some thread ∧ s.nextId = id ∧ ∀ line ∈ s.written, line.id < id

theorem Link.InPhase.holds {s : Link K ι} {thread : ι} {phase : CallPhase}
    (inPhase : s.InPhase thread phase) (inside : phase ≠ .outside) :
    s.ioHolder = some thread := by
  cases phase with
  | outside => exact absurd rfl inside
  | locked => exact inPhase
  | sent => exact inPhase
  | loaded id => exact inPhase.1
  | stored id => exact inPhase.1
  | ready id => exact inPhase.1

theorem Link.InPhase.others_outside {s : Link K ι} {thread other : ι} {mine theirs : CallPhase}
    (inPhase : s.InPhase thread mine) (inside : mine ≠ .outside)
    (their : s.InPhase other theirs) (different : thread ≠ other) : theirs = .outside := by
  by_contra inside'
  have same := (inPhase.holds inside).symm.trans (their.holds inside')
  exact different (Option.some.inj same)

section Steps

variable {s : Link K ι}

theorem Link.Sound.move (sound : s.Sound) {move : LinkMove K} (enabled : s.Enabled (.env move)) :
    (s.next (.env move)).Sound := by
  cases move with
  | lose => exact ⟨sound.ids, sound.bounded, sound.answers, sound.strays⟩
  | respond reply =>
      obtain ⟨line, next, carries⟩ := enabled
      refine ⟨sound.ids, sound.bounded, ?_, ?_⟩
      · intro n other member
        rcases List.mem_append.mp member with before | now
        · exact sound.answers n other before
        · cases List.mem_singleton.mp now
          exact ⟨line, next, carries⟩
      · intro other member
        rcases List.mem_append.mp member with before | now
        · exact sound.strays other before
        · cases List.mem_singleton.mp now
  | garble lines reply =>
      refine ⟨sound.ids, sound.bounded, ?_, ?_⟩
      · intro n other member
        rcases List.mem_append.mp member with before | now
        · exact sound.answers n other before
        · cases List.mem_singleton.mp now
      · intro other member
        rcases List.mem_append.mp member with before | now
        · exact sound.strays other before
        · cases List.mem_singleton.mp now
          exact enabled.2

theorem Link.InPhase.move {thread : ι} {phase : CallPhase} (inPhase : s.InPhase thread phase)
    (move : LinkMove K) : (s.next (.env move)).InPhase thread phase := by
  cases move <;> cases phase <;> exact inPhase

theorem Link.InPhase.read {thread : ι} {phase : CallPhase} (inPhase : s.InPhase thread phase) :
    ({ s with consumed := s.consumed + 1 } : Link K ι).InPhase thread phase := by
  cases phase <;> exact inPhase

/-- Storing a fresh id, or writing a line with it, keeps the ids in order. -/
theorem Link.Sound.store (sound : s.Sound) {last : Nat} (loaded : s.nextId = last) :
    ({ s with nextId := last + 1 } : Link K ι).Sound := by
  refine ⟨sound.ids, ?_, sound.answers, sound.strays⟩
  intro line member
  have below := sound.bounded line member
  change line.id ≤ last + 1
  omega

theorem Link.Sound.write (sound : s.Sound) {line : RequestLine K} (stored : s.nextId = line.id)
    (fresh : ∀ earlier ∈ s.written, earlier.id < line.id) :
    ({ s with written := s.written ++ [line] } : Link K ι).Sound := by
  refine ⟨?_, ?_, ?_, sound.strays⟩
  · refine List.pairwise_append.mpr ⟨sound.ids, List.pairwise_singleton _ _, ?_⟩
    intro earlier member later last
    rw [List.mem_singleton.mp last]
    exact fresh earlier member
  · intro other member
    rcases List.mem_append.mp member with before | now
    · exact sound.bounded other before
    · rw [List.mem_singleton.mp now]
      exact stored.ge
  · intro n reply answered
    obtain ⟨other, found, carries⟩ := sound.answers n reply answered
    obtain ⟨inside, _⟩ := List.getElem?_eq_some_iff.mp found
    refine ⟨other, ?_, carries⟩
    change (s.written ++ [line])[n]? = some other
    rw [List.getElem?_append_left inside]
    exact found

end Steps

section Phases

variable [DecidableEq ι]

def callPhaseOf (thread : ι) (events : List (LinkEvent K ι)) : CallPhase :=
  (phases K).run .outside (callsOf thread events)

theorem callPhaseOf_own (thread : ι) (pre : List (LinkEvent K ι)) (c : Call (clientOps K)) :
    callPhaseOf thread (pre ++ [.call thread c]) = (callPhaseOf thread pre).after c := by
  unfold callPhaseOf
  rw [callsOf_append, callsOf_own, Monitor.run_append]
  rfl

theorem callPhaseOf_other {thread other : ι} (different : other ≠ thread)
    (pre : List (LinkEvent K ι)) (c : Call (clientOps K)) :
    callPhaseOf thread (pre ++ [.call other c]) = callPhaseOf thread pre := by
  unfold callPhaseOf
  rw [callsOf_append, callsOf_other thread different, callsOf_nil, List.append_nil]

theorem callPhaseOf_env (thread : ι) (pre : List (LinkEvent K ι)) (move : LinkMove K) :
    callPhaseOf thread (pre ++ [.env move]) = callPhaseOf thread pre := by
  unfold callPhaseOf
  rw [callsOf_append, callsOf_env, callsOf_nil, List.append_nil]

end Phases

/-- The calls that say nothing of where the thread stands. -/
def ClientOp.quiet : ClientOp K → Bool
  | .isOpen | .setTimeout _ | .flush | .readline => true
  | _ => false

theorem CallPhase.after_quiet (phase : CallPhase) {c : Call (clientOps K)}
    (quiet : c.op.quiet = true) : phase.after c = phase := by
  obtain ⟨op, resp⟩ := c
  cases op <;> cases phase <;> first | rfl | cases quiet

/-- One call of a thread keeps the ids in order and every thread's knowledge true. -/
theorem Link.step_call {s : Link K ι} (sound : s.Sound) {before : ι → CallPhase}
    (inPhase : ∀ thread, s.InPhase thread (before thread)) {thread : ι} {c : Call (clientOps K)}
    (enabled : s.Answers c) (allowed : (before thread).allows c.op) :
    (s.afterCall thread c).Sound ∧
      (s.afterCall thread c).InPhase thread ((before thread).after c) ∧
      ∀ other, thread ≠ other → (s.afterCall thread c).InPhase other (before other) := by
  have mine := inPhase thread
  have alone (inside : before thread ≠ .outside) (other : ι) (different : thread ≠ other) :
      before other = .outside :=
    mine.others_outside inside (inPhase other) different
  obtain ⟨op, resp⟩ := c
  cases op with
  | isOpen =>
      rw [CallPhase.after_quiet _ rfl]
      exact ⟨sound, mine, fun other _ => inPhase other⟩
  | setTimeout motion =>
      rw [CallPhase.after_quiet _ rfl]
      exact ⟨sound, mine, fun other _ => inPhase other⟩
  | flush =>
      rw [CallPhase.after_quiet _ rfl]
      exact ⟨sound, mine, fun other _ => inPhase other⟩
  | readline =>
      rw [CallPhase.after_quiet _ rfl]
      rcases resp with e | none | e | reply
      · exact ⟨sound, mine, fun other _ => inPhase other⟩
      · exact ⟨sound, mine, fun other _ => inPhase other⟩
      · exact ⟨sound, mine, fun other _ => inPhase other⟩
      · exact ⟨⟨sound.ids, sound.bounded, sound.answers, sound.strays⟩, mine.read,
          fun other _ => (inPhase other).read⟩
  | lockIo =>
      have free : s.ioHolder = none := enabled
      refine ⟨⟨sound.ids, sound.bounded, sound.answers, sound.strays⟩, rfl, ?_⟩
      intro other _
      have outside : before other = .outside := by
        by_contra inside
        have held := (inPhase other).holds inside
        rw [free] at held
        cases held
      rw [outside]
      trivial
  | unlockIo =>
      refine ⟨⟨sound.ids, sound.bounded, sound.answers, sound.strays⟩, trivial, ?_⟩
      intro other different
      rw [alone allowed other different]
      trivial
  | loadId =>
      have read : resp = s.nextId := enabled
      refine ⟨sound, ?_, fun other _ => inPhase other⟩
      rcases allowed with locked | ⟨id, stored⟩
      · rw [locked] at mine ⊢
        exact ⟨mine, read.symm⟩
      · rw [stored] at mine ⊢
        have same : resp = id := read.trans mine.2.1
        subst same
        exact mine
  | storeId id =>
      obtain ⟨last, loaded, fresh⟩ := allowed
      rw [loaded] at mine
      subst fresh
      refine ⟨sound.store mine.2, ⟨mine.1, rfl, ?_⟩, ?_⟩
      · intro line member
        have below := sound.bounded line member
        have known := mine.2
        omega
      · intro other different
        rw [alone (by rw [loaded]; exact nofun) other different]
        trivial
  | write line =>
      have ready : before thread = .ready line.id := allowed
      rw [ready] at mine
      refine ⟨sound.write mine.2.1 mine.2.2, mine.1, ?_⟩
      intro other different
      rw [alone (by rw [ready]; exact nofun) other different]
      trivial

theorem Link.written_prefix (s : Link K ι) (events : List (LinkEvent K ι)) :
    s.written <+: ((link K ι).run s events).written := by
  induction events generalizing s with
  | nil => exact List.prefix_rfl
  | cons e rest ih =>
      refine List.IsPrefix.trans ?_ (ih (s.next e))
      cases e with
      | env move => cases move <;> exact List.prefix_rfl
      | call t c =>
          obtain ⟨op, resp⟩ := c
          cases op with
          | write line => exact List.prefix_append _ _
          | readline => rcases resp with e | none | e | reply <;> exact List.prefix_rfl
          | _ => exact List.prefix_rfl

theorem Link.Sound.unique {s : Link K ι} (sound : s.Sound) {m n : Nat}
    {left right : RequestLine K} (first : s.written[m]? = some left)
    (second : s.written[n]? = some right) (same : left.id = right.id) : m = n := by
  obtain ⟨inLeft, atLeft⟩ := List.getElem?_eq_some_iff.mp first
  obtain ⟨inRight, atRight⟩ := List.getElem?_eq_some_iff.mp second
  have ordered := List.pairwise_iff_getElem.mp sound.ids
  rcases Nat.lt_trichotomy m n with less | equal | greater
  · have up := ordered m n inLeft inRight less
    rw [atLeft, atRight] at up
    omega
  · exact equal
  · have up := ordered n m inRight inLeft greater
    rw [atLeft, atRight] at up
    omega

theorem Link.written_append (s : Link K ι) (before after : List (LinkEvent K ι)) (thread : ι)
    (line : RequestLine K) (resp : Except Exc Unit) :
    ((link K ι).run s (before ++ .call thread ⟨.write line, resp⟩ :: after)).written[
      ((link K ι).run s before).written.length]? = some line := by
  rw [Machine.run_append, Machine.run_cons]
  obtain ⟨more, extended⟩ := Link.written_prefix
    (((link K ι).run s before).afterCall thread ⟨.write line, resp⟩) after
  change ((link K ι).run (((link K ι).run s before).afterCall thread ⟨.write line, resp⟩)
    after).written[_]? = _
  rw [← extended]
  change ((((link K ι).run s before).written ++ [line]) ++ more)[_]? = _
  rw [List.append_assoc, List.getElem?_append_right (le_refl _), Nat.sub_self]
  rfl

section Runs

variable [DecidableEq ι] [Scalar K] {repr : Json K → String}
  {threads : ι → Program (rpcs K) Unit} {events : List (LinkEvent K ι)}

theorem LinkRun.allowed {pre post : List (LinkEvent K ι)} {thread : ι} {c : Call (clientOps K)}
    (run : LinkRun repr threads (pre ++ .call thread c :: post)) :
    (callPhaseOf thread pre).allows c.op := by
  have watched : (clientThreads repr threads thread).wp (phases K)
      (fun _ phase => phase = .outside) .outside := wp_session repr (threads thread)
  exact Run.allowed watched run ((phases K).admitted_of_forall (fun _ _ => trivial) _ _)

/-- In every state of every run the ids are in order, and what each thread knows by its
own calls is so. -/
theorem LinkRun.sound (run : LinkRun repr threads events) :
    ((link K ι).run {} events).Sound ∧
      ∀ thread, ((link K ι).run {} events).InPhase thread (callPhaseOf thread events) := by
  induction events using List.reverseRecOn with
  | nil =>
      refine ⟨⟨List.Pairwise.nil, ?_, ?_, ?_⟩, fun _ => trivial⟩
      · intro line none
        cases none
      · intro n reply none
        cases none
      · intro reply none
        cases none
  | append_singleton pre e ih =>
      obtain ⟨sound, inPhase⟩ := ih run.initial
      have enabled : ((link K ι).run {} pre).Enabled e := run.valid.enabled_at
      rw [(link K ι).run_append]
      cases e with
      | env move =>
          refine ⟨sound.move enabled, fun thread => ?_⟩
          rw [callPhaseOf_env]
          exact (inPhase thread).move move
      | call u c =>
          obtain ⟨kept, own, rest⟩ := Link.step_call sound inPhase enabled run.allowed
          refine ⟨kept, fun thread => ?_⟩
          by_cases same : u = thread
          · subst same
            rw [callPhaseOf_own]
            exact own
          · rw [callPhaseOf_other same]
            exact rest thread same

end Runs

theorem transmit_trace {line : RequestLine K} {calls : List (Call (clientOps K))}
    {read : Option (Parsed K)} (ran : Trace (transmit line ()) calls (.done (.ok read, ()))) :
    calls = [⟨.write line, .ok ()⟩, ⟨.flush, .ok ()⟩, ⟨.readline, .ok read⟩] := by
  obtain ⟨written, rest, first, ran⟩ := Trace.of_call ran
  cases written with
  | error e => cases ran.of_done.2
  | ok _ =>
      obtain ⟨flushed, later, second, ran⟩ := Trace.of_call ran
      cases flushed with
      | error e => cases ran.of_done.2
      | ok _ =>
          obtain ⟨answer, none, third, ran⟩ := Trace.of_call ran
          cases answer with
          | error e => cases ran.of_done.2
          | ok answer =>
              obtain ⟨empty, same⟩ := ran.of_done
              cases same
              rw [first, second, third, empty]

theorem raising_trace {α : Type} {answer : Except Exc α} {calls : List (Call (clientOps K))}
    {a : α} (ran : Trace (raising answer ()) calls (.done (.ok a, ()))) :
    calls = [] ∧ answer = .ok a := by
  cases answer with
  | ok b =>
      obtain ⟨none, same⟩ := ran.of_done
      cases same
      exact ⟨none, rfl⟩
  | error e => cases ran.of_done.2

section Finished

variable [Scalar K] {repr : Json K → String}

theorem idMatches_int (n : Int) (rid : Nat) :
    idMatches (some (.int n) : Option (Json K)) rid = true ↔ n = rid := by
  unfold idMatches
  exact decide_eq_true_iff

theorem converse_trace {line : RequestLine K} {calls : List (Call (clientOps K))}
    {reply : Json K} (ran : Trace (converse repr line ()) calls (.done (.ok reply, ()))) :
    ∃ first last read,
      calls = first ++ ⟨.write line, .ok ()⟩ :: ⟨.flush, .ok ()⟩ :: ⟨.readline, .ok read⟩ :: last ∧
      acceptReply repr line.method line.id read = .ok reply := by
  obtain ⟨_, _, first, rest, split, _, ran⟩ := Script.trace_bind_ok ran
  obtain ⟨read, _, body, none, splitRest, ensured, ran⟩ := Script.trace_bind_ok ran
  obtain ⟨_, sent, last, splitBody, transmitted, _⟩ := Script.trace_ensuring_ok ensured
  obtain ⟨empty, accepted⟩ := raising_trace ran
  refine ⟨first, last, read, ?_, accepted⟩
  rw [split, splitRest, splitBody, transmit_trace transmitted, empty, List.append_nil]
  rfl

theorem call_trace {method : String} {params : Json K} {calls : List (Call (clientOps K))}
    {result : Json K}
    (ran : Trace (call repr method params ()) calls (.done (.ok result, ()))) :
    ∃ first last rid read reply,
      calls = first ++ ⟨.write ⟨rid, method, params⟩, .ok ()⟩ :: ⟨.flush, .ok ()⟩ ::
        ⟨.readline, .ok read⟩ :: last ∧
      acceptReply repr method rid read = .ok reply ∧ replyResult reply = .ok result := by
  obtain ⟨isOpen, rest, opened, ran⟩ := Trace.of_call ran
  cases isOpen with
  | false => cases ran.of_done.2
  | true =>
      obtain ⟨taken, rest, locked, ran⟩ := Trace.of_call ran
      obtain ⟨reply, _, body, none, split, ensured, ran⟩ := Script.trace_bind_ok ran
      obtain ⟨_, inside, unlocked, splitBody, exchanged, _⟩ := Script.trace_ensuring_ok ensured
      obtain ⟨empty, finished⟩ := raising_trace ran
      obtain ⟨(loaded : Nat), rest, load, exchanged⟩ := Trace.of_call exchanged
      obtain ⟨kept, rest, store, exchanged⟩ := Trace.of_call exchanged
      obtain ⟨rid, rest, reload, exchanged⟩ := Trace.of_call exchanged
      obtain ⟨first, last, read, conversed, accepted⟩ := converse_trace exchanged
      refine ⟨⟨.isOpen, true⟩ :: ⟨.lockIo, taken⟩ :: ⟨.loadId, loaded⟩ ::
        ⟨.storeId (loaded + 1), kept⟩ ::
        ⟨.loadId, rid⟩ :: first, last ++ unlocked, rid, read, reply, ?_, accepted, finished⟩
      rw [opened, locked, split, splitBody, load, store, reload, conversed, empty,
        List.append_nil]
      simp only [List.cons_append, List.append_assoc]

theorem acceptReply_ok {method : String} {rid : Nat} {read : Option (Parsed K)}
    {reply : Json K} (accepted : acceptReply repr method rid read = .ok reply) :
    read = some (.ok reply) ∧ idMatches (replyId reply) rid = true := by
  unfold acceptReply at accepted
  split at accepted
  · cases accepted
  · cases accepted
  · dsimp only at accepted
    split at accepted
    · rename_i matching
      cases accepted
      exact ⟨rfl, matching⟩
    · cases accepted
  · cases accepted

end Finished

section Runs

variable [DecidableEq ι] [Scalar K] {repr : Json K → String}
  {threads : ι → Program (rpcs K) Unit} {events : List (LinkEvent K ι)}

theorem LinkRun.reply_of_id (run : LinkRun repr threads events) {n : Nat}
    {line : RequestLine K} (written : ((link K ι).run {} events).written[n]? = some line)
    {tag : Option Nat} {reply : Json K}
    (sent : (tag, reply) ∈ ((link K ι).run {} events).stream)
    (matching : idMatches (replyId reply) line.id = true) :
    ((link K ι).run {} events).Answered n reply := by
  have sound := run.sound.1
  cases tag with
  | none =>
      rw [sound.strays reply sent, idMatches_int] at matching
      omega
  | some m =>
      obtain ⟨other, found, carries⟩ := sound.answers m reply sent
      rw [carries, idMatches_int] at matching
      have same := sound.unique found written (Int.ofNat.inj matching)
      exact same ▸ sent

/-- Within `segment`, the thread has written its line and then read a reply that was there
already, the server's answer to that very line, and `result` is the result in it. -/
def OwnReply (events : List (LinkEvent K ι)) (thread : ι)
    (before segment : List (Call (clientOps K))) (method : String) (params result : Json K) :
    Prop :=
  ∃ sent got rest rid reply,
    events = sent ++ .call thread ⟨.write ⟨rid, method, params⟩, .ok ()⟩ :: got ++
      .call thread ⟨.readline, .ok (some (.ok reply))⟩ :: rest ∧
    before <+: callsOf thread sent ∧
    callsOf thread (sent ++ .call thread ⟨.write ⟨rid, method, params⟩, .ok ()⟩ :: got) <+:
      before ++ segment ∧
    ((link K ι).run {} (sent ++ .call thread ⟨.write ⟨rid, method, params⟩, .ok ()⟩ ::
      got)).Answered ((link K ι).run {} sent).written.length reply ∧
    replyResult reply = .ok result

theorem LinkRun.own_reply (run : LinkRun repr threads events) {thread : ι}
    {before segment after : List (Call (clientOps K))} {method : String} {params result : Json K}
    (calls : callsOf thread events = before ++ segment ++ after)
    (returned : Trace (call repr method params ()) segment (.done (.ok result, ()))) :
    OwnReply events thread before segment method params result := by
  obtain ⟨first, last, rid, read, reply, split, accepted, finished⟩ := call_trace returned
  obtain ⟨isReply, matching⟩ := acceptReply_ok accepted
  subst isReply
  have atRead : callsOf thread events =
      (before ++ first ++ [⟨.write ⟨rid, method, params⟩, .ok ()⟩, ⟨.flush, .ok ()⟩]) ++
        ⟨.readline, .ok (some (.ok reply))⟩ :: (last ++ after) := by
    rw [calls, split]
    simp only [List.append_assoc, List.cons_append, List.nil_append]
  obtain ⟨pre, rest, events_eq, calledPre, _⟩ := callsOf_split atRead
  have atWrite : callsOf thread pre = (before ++ first) ++
      ⟨.write ⟨rid, method, params⟩, .ok ()⟩ :: [⟨.flush, .ok ()⟩] := by
    rw [calledPre]
  obtain ⟨sent, got, pre_eq, calledSent, _⟩ := callsOf_split atWrite
  subst pre_eq
  have enabled : ((link K ι).run {} (sent ++ .call thread ⟨.write ⟨rid, method, params⟩,
      .ok ()⟩ :: got)).Enabled (.call thread ⟨.readline, .ok (some (.ok reply))⟩) := by
    have valid := run.valid
    rw [events_eq] at valid
    exact valid.enabled_at
  obtain ⟨tag, next⟩ := enabled
  refine ⟨sent, got, rest, rid, reply, events_eq, ?_, ?_, ?_, finished⟩
  · rw [calledSent]
    exact List.prefix_append _ _
  · rw [calledPre, split]
    refine ⟨⟨.readline, .ok (some (.ok reply))⟩ :: last, ?_⟩
    simp only [List.append_assoc, List.cons_append, List.nil_append]
  · subst events_eq
    exact LinkRun.reply_of_id run.initial (Link.written_append _ _ _ _ _ _)
      (List.mem_of_getElem? next) matching

/-- However late the replies are and wherever reads and writes fail: a call that ends has
raised, or returns the result of the reply to its own line. -/
theorem call_returns_own_reply (run : LinkRun repr threads events) {thread : ι}
    {before segment after : List (Call (clientOps K))} {method : String} {params : Json K}
    {out : Except Exc (Json K)}
    (calls : callsOf thread events = before ++ segment ++ after)
    (ended : Trace (call repr method params ()) segment (.done (out, ()))) :
    (∃ e, out = .error e) ∨
      ∃ result, out = .ok result ∧ OwnReply events thread before segment method params result := by
  cases out with
  | error e => exact Or.inl ⟨e, rfl⟩
  | ok result => exact Or.inr ⟨result, rfl, run.own_reply calls ended⟩

end Runs

/-! ### A reply that comes too late -/

def statesThreads : Bool → Program (rpcs ℝ) Unit
  | true => .call ("get_state", .obj []) fun _ => .call ("get_state", .obj []) fun _ => .done ()
  | false => .call ("heartbeat", .obj []) fun _ => .done ()

def stateReply (rid : Int) : Json ℝ := okReply (.int rid) (.obj [("state", .obj [])])

def beatReply : Json ℝ := okReply (.int 1) (.obj [])

def readTimeout : Exc := ⟨.other "TimeoutError", "timed out"⟩

def callWith (last : Nat) (method : String) (read : Except Exc (Option (Parsed ℝ))) :
    List (Call (clientOps ℝ)) :=
  [⟨.isOpen, true⟩, ⟨.lockIo, ()⟩, ⟨.loadId, last⟩, ⟨.storeId (last + 1), ()⟩,
    ⟨.loadId, last + 1⟩, ⟨.write ⟨last + 1, method, .obj []⟩, .ok ()⟩, ⟨.flush, .ok ()⟩,
    ⟨.readline, read⟩, ⟨.unlockIo, ()⟩]

def beatCalls : List (Call (clientOps ℝ)) := callWith 0 "heartbeat" (.ok (some (.ok beatReply)))

def timedOutCalls : List (Call (clientOps ℝ)) := callWith 1 "get_state" (.error readTimeout)

def lateCalls : List (Call (clientOps ℝ)) :=
  callWith 2 "get_state" (.ok (some (.ok (stateReply 2))))

def lateRun : List (LinkEvent ℝ Bool) :=
  (beatCalls.take 7).map (.call false) ++ .env (.respond beatReply) ::
    (beatCalls.drop 7).map (.call false) ++ timedOutCalls.map (.call true) ++
    .env (.respond (stateReply 2)) :: (lateCalls.take 7).map (.call true) ++
    .env (.respond (stateReply 3)) :: (lateCalls.drop 7).map (.call true)

def desynchronized : Exc :=
  remoteRobotError ("response id 2 does not match request id 3 (get_state); " ++
    "the connection is desynchronized -- reconnect")

def showId : Json ℝ → String
  | .int n => toString n
  | _ => ""

theorem beat_trace : Trace (call showId "heartbeat" (.obj []) ()) beatCalls
    (.done (.ok (.obj []), ())) :=
  .cons (.cons (.cons (.cons (.cons (.cons (.cons (.cons (.cons (.nil _)))))))))

theorem timedOut_trace : Trace (call showId "get_state" (.obj []) ()) timedOutCalls
    (.done (.error readTimeout, ())) :=
  .cons (.cons (.cons (.cons (.cons (.cons (.cons (.cons (.cons (.nil _)))))))))

theorem late_trace : Trace (call showId "get_state" (.obj []) ()) lateCalls
    (.done (.error desynchronized, ())) :=
  .cons (.cons (.cons (.cons (.cons (.cons (.cons (.cons (.cons (.nil _)))))))))

theorem lateRun_run : LinkRun showId statesThreads lateRun where
  valid := by
    refine ⟨trivial, rfl, rfl, trivial, rfl, trivial, trivial, ⟨_, rfl, rfl⟩, ⟨_, rfl⟩, trivial,
      trivial, rfl, rfl, trivial, rfl, trivial, trivial, trivial, trivial, ⟨_, rfl, rfl⟩,
      trivial, rfl, rfl, trivial, rfl, trivial, trivial, ⟨_, rfl, rfl⟩, ⟨_, rfl⟩, trivial,
      trivial⟩
  traced := by
    intro thread
    cases thread with
    | true =>
        exact ⟨_, (timedOut_trace.bind _).append (late_trace.bind fun _ => .done ())⟩
    | false => exact ⟨_, beat_trace.bind fun _ => .done ()⟩

/-- The other thread has its own reply. The reply to the second request has been sent, but
what is read for it is the one left over, and it raises. -/
theorem call_returns_own_reply_late :
    OwnReply lateRun false [] beatCalls "heartbeat" (.obj []) (.obj []) ∧
      ((link ℝ Bool).run {} lateRun).Answered 2 (stateReply 3) ∧
      Trace (call showId "get_state" (.obj []) ()) lateCalls
        (.done (.error desynchronized, ())) := by
  have calls : callsOf false lateRun = [] ++ beatCalls ++ [] := rfl
  refine ⟨?_, List.mem_of_getElem? (i := 2) rfl, late_trace⟩
  rcases call_returns_own_reply lateRun_run calls beat_trace with
    ⟨e, raised⟩ | ⟨result, returned, own⟩
  · cases raised
  · cases returned
    exact own

end FlexivControl
