/-
The one-slot buffer for gripper commands.

A published command waits in a slot that the next one overwrites. The thread reads the slot
in its snapshot, passes what it read to the backend outside the lock, and empties the slot
in another locked block without looking at it. What was published in between leaves the
slot unsent.
-/

import FlexivControl.Library.OneSlot
import FlexivControl.Loop.StopRace
import FlexivControl.Robot.Untouched

namespace FlexivControl

section Slot

variable {K : Type} [Scalar K]

/-! ### The thread, one locked block or backend call at a time -/

def Publication.command : Publication K → Option (GripperCommand K)
  | .cartesianTarget pose gripper _ =>
      match Pose.reshape7 pose with
      | .error _ => none
      | .ok _ => gripper
  | _ => none

def ChunkNext.command : ChunkNext K → Option (GripperCommand K)
  | .setpoint sp => sp.gripper
  | _ => none

def BackendCall.gripper : BackendCall K → Option (GripperCommand K)
  | .moveGripper cmd => some cmd
  | _ => none

def ThreadCall.gripper : ThreadCall K → Option (GripperCommand K)
  | .write call => call.gripper
  | _ => none

/-- Where the thread stands: about to test the flag, past the test, with a state read, with
the chunk's setpoint pulled, before its snapshot, before the fault test, waiting for the
writer lock, inside the lock with calls to make or with the slot to empty, past the lock, in
the handler of an exception, or gone. -/
inductive SlotPhase (K : Type) [Scalar K] where
  | top
  | reading
  | fetching (input : TickInput K) (state : RobotState K)
  | advancing (input : TickInput K) (state : RobotState K) (next : ChunkNext K)
  | latching (input : TickInput K) (state : RobotState K)
  | testing (input : TickInput K) (snap : Snapshot K)
  | waiting (input : TickInput K) (snap : Snapshot K)
  | writing (input : TickInput K) (call : BackendCall K) (rest : List (BackendCall K))
      (out : Except Exc Unit)
  | clearing (input : TickInput K)
  | finishing (input : TickInput K)
  | crashing
  | ended

def SlotPhase.holdsLock : SlotPhase K → Bool
  | .writing _ _ _ _ => true
  | .clearing _ => true
  | _ => false

/-- What comes after the calls made so far, the last of them a gripper call or not. -/
def SlotPhase.after (input : TickInput K) (out : Except Exc Unit) (moved : Bool) :
    List (BackendCall K) → SlotPhase K
  | call :: rest => .writing input call rest out
  | [] =>
      match out with
      | .error _ => .crashing
      | .ok _ => if moved then .clearing input else .finishing input

/-- The loop, its thread and its calls; the buffer keeps the number of every command. -/
structure GripperRace (K : Type) [Scalar K] where
  loop : ReactiveServoLoop K
  thread : SlotPhase K := .top
  calls : List (ThreadCall K) := []
  buffer : OneSlot.Buffer (GripperCommand K) := {}

inductive SlotEvent (K : Type) [Scalar K] where
  | publish (publication : Publication K)
  | test
  | read (input : TickInput K)
  | fetch
  | advance
  | snapshot
  | inFault
  | enter
  | call
  | clear
  | finish
  | handleCrash

def Publication.locksWriter : Publication K → Bool
  | .safetyProfile _ => true
  | _ => false

def put (buffer : OneSlot.Buffer (GripperCommand K)) (command : Option (GripperCommand K)) :
    OneSlot.Buffer (GripperCommand K) :=
  match command with
  | none => buffer
  | some cmd => buffer.step (.publish cmd)

/-- One step; a step out of turn leaves everything as it is. The write section decides as it
takes the lock, and its calls come one at a time. -/
def GripperRace.step (race : GripperRace K) : SlotEvent K → GripperRace K
  | .publish p =>
      if p.locksWriter && race.thread.holdsLock then race
      else { race with loop := p.apply race.loop, buffer := put race.buffer p.command }
  | .test =>
      match race.thread with
      | .top => { race with thread := if race.loop.running then .reading else .ended }
      | _ => race
  | .read input =>
      match race.thread with
      | .reading =>
          match input.state with
          | .error _ => { race with thread := .crashing, calls := race.calls ++ [.readState] }
          | .ok state =>
              { race with
                loop := { race.loop with latestState := some state }
                thread := .fetching input state
                calls := race.calls ++ [.readState] }
      | _ => race
  | .fetch =>
      match race.thread with
      | .fetching input state =>
          { race with
            loop := race.loop.fetchChunk.2
            thread := .advancing input state race.loop.fetchChunk.1 }
      | _ => race
  | .advance =>
      match race.thread with
      | .advancing input state next =>
          { race with
            loop := race.loop.advance next input.advanceClock
            thread := .latching input state
            buffer := put race.buffer next.command }
      | _ => race
  | .snapshot =>
      match race.thread with
      | .latching input state =>
          { race with
            thread := .testing input (race.loop.snapshot input state false)
            buffer := race.buffer.step .copy }
      | _ => race
  | .inFault =>
      match race.thread with
      | .testing input snap =>
          match input.inFault with
          | .error _ => { race with thread := .crashing, calls := race.calls ++ [.inFault] }
          | .ok faulted =>
              { race with
                loop := { race.loop with
                  stats := { race.loop.stats with commandAgeMs := snap.age * Scalar.ofNat 1000 } }
                thread := .waiting input { snap with faulted := faulted }
                calls := race.calls ++ [.inFault] }
      | _ => race
  | .enter =>
      match race.thread with
      | .waiting input snap =>
          match writeSection input snap race.loop.robot { loop := race.loop } with
          | (out, pass) =>
              { race with
                loop := { race.loop with robot := pass.loop.robot, stats := pass.loop.stats }
                thread := .after input out false pass.calls }
      | _ => race
  | .call =>
      match race.thread with
      | .writing input call rest out =>
          { race with
            thread := .after input out call.gripper.isSome rest
            calls := race.calls ++ [.write call]
            buffer := if call.gripper.isSome then race.buffer.step .pass else race.buffer }
      | _ => race
  | .clear =>
      match race.thread with
      | .clearing input =>
          { race with
            loop := { race.loop with targetGripper := none }
            thread := .finishing input
            buffer := race.buffer.step .clear }
      | _ => race
  | .finish =>
      match race.thread with
      | .finishing input =>
          { race with
            loop := race.loop.diagnose input
            thread := .top
            buffer := race.buffer.step .drop }
      | _ => race
  | .handleCrash =>
      match race.thread with
      | .crashing =>
          { race with
            loop := { race.loop.report .fault .backendFault with running := false }
            thread := .ended
            calls := race.calls ++ [.write .stop] }
      | _ => race

def GripperRace.run (race : GripperRace K) (events : List (SlotEvent K)) : GripperRace K :=
  events.foldl GripperRace.step race

theorem GripperRace.run_cons (race : GripperRace K) (event : SlotEvent K)
    (events : List (SlotEvent K)) : race.run (event :: events) = (race.step event).run events := rfl

theorem GripperRace.run_append (race : GripperRace K) (events more : List (SlotEvent K)) :
    race.run (events ++ more) = (race.run events).run more := List.foldl_append

/-- The commands passed to the backend's `move_gripper`, in order. -/
def GripperRace.moves (race : GripperRace K) : List (GripperCommand K) :=
  race.calls.filterMap ThreadCall.gripper

def Handless {α : Type} (x : LoopM K α) : Prop :=
  ∀ pass, (x pass).2.loop.targetGripper = pass.loop.targetGripper ∧
    ∃ calls : List (BackendCall K), (∀ call ∈ calls, call.gripper = none) ∧
      (x pass).2.calls = pass.calls ++ calls

/-- A step that moves the gripper with its last call, if at all, by the command it has; it
empties the slot unless that call raised. -/
def Hands (gripper : Option (GripperCommand K)) (x : LoopM K Unit) : Prop :=
  ∀ pass, ∃ calls : List (BackendCall K), (∀ call ∈ calls, call.gripper = none) ∧
    (((x pass).2.calls = pass.calls ++ calls ∧
        (x pass).2.loop.targetGripper = pass.loop.targetGripper) ∨
      ∃ cmd, gripper = some cmd ∧ (x pass).2.calls = pass.calls ++ (calls ++ [.moveGripper cmd]) ∧
        ((x pass).1 = .ok () → (x pass).2.loop.targetGripper = none) ∧
        (∀ e, (x pass).1 = .error e → (x pass).2.loop.targetGripper = pass.loop.targetGripper))

section Spec

variable {gripper : Option (GripperCommand K)}

theorem handless_pure {α : Type} (a : α) : Handless (pure a : LoopM K α) :=
  fun _ => ⟨rfl, [], fun _ member => (List.not_mem_nil member).elim, (List.append_nil _).symm⟩

theorem handless_command (input : TickInput K) {call : BackendCall K} (other : call.gripper = none) :
    Handless (command input call) := by
  intro pass
  have added : ∀ c ∈ [call], c.gripper = none := by
    intro c member
    rw [List.mem_singleton.mp member]
    exact other
  unfold command
  dsimp only
  split
  · exact ⟨rfl, [call], added, rfl⟩
  · exact ⟨rfl, [call], added, rfl⟩

theorem handless_update {f : ReactiveServoLoop K → ReactiveServoLoop K}
    (kept : ∀ loop, (f loop).targetGripper = loop.targetGripper) : Handless (update f) :=
  fun pass => ⟨kept pass.loop, [], fun _ member => (List.not_mem_nil member).elim,
    (List.append_nil _).symm⟩

theorem mem_append_none {calls more : List (BackendCall K)} (first : ∀ c ∈ calls, c.gripper = none)
    (second : ∀ c ∈ more, c.gripper = none) : ∀ c ∈ calls ++ more, c.gripper = none := by
  intro c member
  rcases List.mem_append.mp member with before | later
  · exact first c before
  · exact second c later

theorem Handless.bind {α β : Type} {x : LoopM K α} {f : α → LoopM K β} (first : Handless x)
    (rest : ∀ a, Handless (f a)) : Handless (x >>= f) := by
  intro pass
  obtain ⟨kept, calls, mute, made⟩ := first pass
  rw [LoopM.bind_apply]
  cases ran : x pass with
  | mk out pass' =>
      rw [ran] at kept made
      cases out with
      | error e => exact ⟨kept, calls, mute, made⟩
      | ok a =>
          obtain ⟨kept', calls', mute', made'⟩ := rest a pass'
          refine ⟨kept'.trans kept, calls ++ calls', mem_append_none mute mute', ?_⟩
          rw [made', made, List.append_assoc]

theorem Handless.hands {x : LoopM K Unit} (handless : Handless x) : Hands gripper x := by
  intro pass
  obtain ⟨kept, calls, mute, made⟩ := handless pass
  exact ⟨calls, mute, Or.inl ⟨made, kept⟩⟩

theorem Hands.after {α : Type} {x : LoopM K α} {f : α → LoopM K Unit} (first : Handless x)
    (rest : ∀ a, Hands gripper (f a)) : Hands gripper (x >>= f) := by
  intro pass
  obtain ⟨kept, calls, mute, made⟩ := first pass
  rw [LoopM.bind_apply]
  cases ran : x pass with
  | mk out pass' =>
      rw [ran] at kept made
      cases out with
      | error e => exact ⟨calls, mute, Or.inl ⟨made, kept⟩⟩
      | ok a =>
          dsimp only at kept made
          obtain ⟨calls', mute', result⟩ := rest a pass'
          refine ⟨calls ++ calls', mem_append_none mute mute', ?_⟩
          rw [made, kept] at result
          simpa only [List.append_assoc] using result

theorem Hands.then_update {x : LoopM K Unit} {f : ReactiveServoLoop K → ReactiveServoLoop K}
    (hands : Hands gripper x) (kept : ∀ loop, (f loop).targetGripper = loop.targetGripper) :
    Hands gripper (do x; update f) := by
  intro pass
  obtain ⟨calls, mute, result⟩ := hands pass
  refine ⟨calls, mute, ?_⟩
  change (((x >>= fun _ => update f) pass).2.calls = _ ∧ _) ∨ _
  rw [LoopM.bind_apply]
  cases ran : x pass with
  | mk out pass' =>
      rw [ran] at result
      cases out with
      | error e => exact result
      | ok a =>
          rcases result with ⟨made, left⟩ | ⟨cmd, same, made, emptied, _⟩
          · exact Or.inl ⟨made, (kept pass'.loop).trans left⟩
          · refine Or.inr ⟨cmd, same, made, ?_, ?_⟩
            · exact fun _ => (kept pass'.loop).trans (emptied rfl)
            · intro e raised
              cases raised

theorem hands_sendGripper (input : TickInput K) : Hands gripper (sendGripper input gripper) := by
  unfold sendGripper
  cases gripper with
  | none => exact (handless_pure ()).hands
  | some cmd =>
      intro pass
      refine ⟨[], fun _ member => (List.not_mem_nil member).elim, Or.inr ⟨cmd, rfl, ?_⟩⟩
      dsimp only
      rw [LoopM.bind_apply]
      unfold command
      dsimp only
      cases input.ack (.moveGripper cmd) with
      | none =>
          refine ⟨rfl, fun _ => rfl, ?_⟩
          intro e raised
          cases raised
      | some e =>
          refine ⟨rfl, ?_, fun _ _ => rfl⟩
          intro returned
          cases returned

theorem handless_ensureStreamMode (input : TickInput K) (state : RobotState K) (robot : Robot K)
    (cartesian : Bool) : Handless (ensureStreamMode input state robot cartesian) := by
  unfold ensureStreamMode
  split
  · split
    · exact handless_pure ()
    · exact handless_command input rfl
  · split
    · exact handless_command input rfl
    · exact handless_pure ()

theorem handless_withFilter (filter : SafetyFilter K) :
    Handless (update fun loop : ReactiveServoLoop K => loop.withFilter filter) :=
  handless_update fun _ => rfl

theorem handless_reportStreamed (sr : SafetyResult K) : Handless (reportStreamed sr) :=
  handless_update fun _ => rfl

theorem handless_protectiveStop (input : TickInput K) (status : SafetyStatus)
    (reason : StopReason) : Handless (protectiveStop input status reason) :=
  (handless_command input rfl).bind fun _ =>
    handless_update fun loop : ReactiveServoLoop K => (rfl : (loop.report status reason).targetGripper = _)

theorem handless_holdPosition (input : TickInput K) (state : RobotState K) (robot : Robot K)
    (cartesian : Bool) : Handless (holdPosition input state robot cartesian) := by
  unfold holdPosition
  refine Handless.bind (handless_update fun loop : ReactiveServoLoop K => rfl) fun _ => ?_
  refine Handless.bind (handless_update fun loop : ReactiveServoLoop K => rfl) fun _ => ?_
  refine (handless_ensureStreamMode input state robot cartesian).bind fun _ => ?_
  split
  · exact handless_command input rfl
  · exact handless_command input rfl

theorem hands_liveCartesian (input : TickInput K) (state : RobotState K) (robot : Robot K)
    (target : Pose K) : Hands gripper (liveCartesian input state robot target gripper) := by
  unfold liveCartesian
  dsimp only
  apply Hands.after (handless_withFilter _)
  intro _
  split
  · apply Hands.after (handless_ensureStreamMode input state robot true)
    intro _
    apply Hands.after (handless_command input rfl)
    intro _
    exact (hands_sendGripper input).then_update fun loop => rfl
  · exact (handless_protectiveStop input _ _).hands

theorem handless_liveJoint (input : TickInput K) (state : RobotState K) (robot : Robot K)
    (target : List K) : Handless (liveJoint input state robot target) := by
  unfold liveJoint
  split
  · exact fun pass => ⟨rfl, [], fun _ member => (List.not_mem_nil member).elim,
      (List.append_nil _).symm⟩
  · refine (handless_withFilter _).bind fun _ => ?_
    split
    · refine (handless_ensureStreamMode input state robot false).bind fun _ => ?_
      exact (handless_command input rfl).bind fun _ => handless_reportStreamed _
    · exact handless_protectiveStop input _ _

theorem hands_writeSection (input : TickInput K) (snap : Snapshot K) (robot : Robot K) :
    Hands snap.gripper (writeSection input snap robot) := by
  unfold writeSection
  dsimp only
  split
  · exact (handless_protectiveStop input _ _).hands
  · split
    · exact (handless_protectiveStop input _ _).hands
    · split
      · split
        · exact (handless_protectiveStop input _ _).hands
        · exact (handless_holdPosition input snap.state robot snap.cartesian).hands
      · split
        · exact hands_liveCartesian input snap.state robot _
        · exact (handless_liveJoint input snap.state robot _).hands
        · exact (handless_pure ()).hands

end Spec

/-! ### The numbered buffer is the slot -/

/-- What the thread has of the numbered buffer where it stands. -/
def SlotPhase.Fits (buffer : OneSlot.Buffer (GripperCommand K)) : SlotPhase K → Prop
  | .testing _ snap => buffer.Copied snap.gripper
  | .waiting _ snap => buffer.Copied snap.gripper
  | .writing _ call rest _ => ∃ calls held, (∀ c ∈ calls, c.gripper = none) ∧
      buffer.Copied held ∧ (call :: rest = calls ∨
        ∃ cmd, held = some cmd ∧ call :: rest = calls ++ [.moveGripper cmd])
  | .clearing _ => ∃ i, buffer.hand = .passed i
  | .finishing _ => ∀ i, buffer.hand ≠ .passed i
  | .crashing => True
  | .ended => True
  | _ => buffer.hand = .free

/-- The slot holds what the buffer holds, and the calls moved what the buffer delivered. -/
structure GripperRace.Agrees (race : GripperRace K) : Prop where
  sound : race.buffer.Sound
  slot : race.loop.targetGripper = race.buffer.content
  moves : race.moves = race.buffer.sent
  fits : race.thread.Fits race.buffer

theorem put_sound {buffer : OneSlot.Buffer (GripperCommand K)} (sound : buffer.Sound)
    (command : Option (GripperCommand K)) : (put buffer command).Sound := by
  cases command with
  | none => exact sound
  | some cmd => exact OneSlot.Buffer.publish_sound sound cmd

theorem put_content (buffer : OneSlot.Buffer (GripperCommand K))
    (command : Option (GripperCommand K)) :
    (put buffer command).content = (command <|> buffer.content) := by
  cases command with
  | none => rfl
  | some cmd => exact OneSlot.Buffer.publish_content buffer cmd

theorem put_sent {buffer : OneSlot.Buffer (GripperCommand K)} (sound : buffer.Sound)
    (command : Option (GripperCommand K)) : (put buffer command).sent = buffer.sent := by
  cases command with
  | none => rfl
  | some cmd => exact OneSlot.Buffer.publish_sent sound cmd

theorem put_copied {buffer : OneSlot.Buffer (GripperCommand K)} {held : Option (GripperCommand K)}
    (copied : buffer.Copied held) (command : Option (GripperCommand K)) :
    (put buffer command).Copied held := by
  cases command with
  | none => exact copied
  | some cmd => exact OneSlot.Buffer.publish_copied copied cmd

theorem put_hand (buffer : OneSlot.Buffer (GripperCommand K))
    (command : Option (GripperCommand K)) : (put buffer command).hand = buffer.hand := by
  cases command with
  | none => rfl
  | some cmd => rfl

theorem SlotPhase.Fits.put {thread : SlotPhase K} {buffer : OneSlot.Buffer (GripperCommand K)}
    (fits : thread.Fits buffer) (command : Option (GripperCommand K)) :
    thread.Fits (put buffer command) := by
  have same := put_hand buffer command
  cases thread with
  | testing input snap => exact put_copied fits command
  | waiting input snap => exact put_copied fits command
  | writing input call rest out =>
      obtain ⟨calls, held, mute, copied, order⟩ := fits
      exact ⟨calls, held, mute, put_copied copied command, order⟩
  | clearing input =>
      obtain ⟨i, hand⟩ := fits
      exact ⟨i, same.trans hand⟩
  | finishing input =>
      intro i
      rw [same]
      exact fits i
  | crashing => trivial
  | ended => trivial
  | top => exact same.trans fits
  | reading => exact same.trans fits
  | fetching input state => exact same.trans fits
  | advancing input state next => exact same.trans fits
  | latching input state => exact same.trans fits

theorem Publication.apply_gripper (p : Publication K) (loop : ReactiveServoLoop K) :
    (p.apply loop).targetGripper = (p.command <|> loop.targetGripper) := by
  cases p with
  | cartesianTarget pose gripper now =>
      unfold Publication.apply ReactiveServoLoop.setCartesianTarget Publication.command
      dsimp only
      cases Pose.reshape7 pose with
      | error e => rfl
      | ok pose => rfl
  | jointTarget q now => rfl
  | enqueueChunk chunk s now =>
      unfold Publication.apply ReactiveServoLoop.enqueueChunk Publication.command
      dsimp only
      split <;> rfl
  | safetyProfile profile => rfl
  | halt => rfl

theorem advance_gripper (loop : ReactiveServoLoop K) (next : ChunkNext K) (now : K) :
    (loop.advance next now).targetGripper = (next.command <|> loop.targetGripper) := by
  cases next <;> rfl

theorem fetchChunk_gripper (loop : ReactiveServoLoop K) :
    loop.fetchChunk.2.targetGripper = loop.targetGripper := by
  unfold ReactiveServoLoop.fetchChunk
  split <;> rfl

theorem diagnose_targetGripper (loop : ReactiveServoLoop K) (input : TickInput K) :
    (loop.diagnose input).targetGripper = loop.targetGripper := by
  unfold ReactiveServoLoop.diagnose
  dsimp only
  split <;> rfl

theorem moves_append (race : GripperRace K) (call : ThreadCall K) :
    (race.calls ++ [call]).filterMap ThreadCall.gripper = race.moves ++ call.gripper.toList := by
  rw [List.filterMap_append]
  unfold GripperRace.moves
  cases found : call.gripper with
  | none => rw [List.filterMap_cons_none found, List.filterMap_nil, Option.toList_none]
  | some cmd => rw [List.filterMap_cons_some found, List.filterMap_nil, Option.toList_some]

section Steps

variable {race : GripperRace K}

theorem publish_agrees (agrees : race.Agrees) (p : Publication K) :
    (race.step (.publish p)).Agrees := by
  unfold GripperRace.step
  dsimp only
  split
  · exact agrees
  · refine ⟨put_sound agrees.sound _, ?_, ?_, agrees.fits.put _⟩
    · rw [p.apply_gripper, put_content, agrees.slot]
    · rw [put_sent agrees.sound]
      exact agrees.moves

theorem test_agrees (agrees : race.Agrees) : (race.step .test).Agrees := by
  have fits := agrees.fits
  unfold GripperRace.step
  cases stands : race.thread with
  | top =>
      rw [stands] at fits
      refine ⟨agrees.sound, agrees.slot, agrees.moves, ?_⟩
      dsimp only
      split
      · exact fits
      · trivial
  | _ => exact agrees

theorem read_agrees (agrees : race.Agrees) (input : TickInput K) :
    (race.step (.read input)).Agrees := by
  have fits := agrees.fits
  have unmoved := (moves_append race .readState).trans (List.append_nil _)
  unfold GripperRace.step
  cases stands : race.thread with
  | reading =>
      rw [stands] at fits
      dsimp only
      cases input.state with
      | error e => exact ⟨agrees.sound, agrees.slot, unmoved.trans agrees.moves, trivial⟩
      | ok state => exact ⟨agrees.sound, agrees.slot, unmoved.trans agrees.moves, fits⟩
  | _ => exact agrees

theorem fetch_agrees (agrees : race.Agrees) : (race.step .fetch).Agrees := by
  have fits := agrees.fits
  unfold GripperRace.step
  cases stands : race.thread with
  | fetching input state =>
      rw [stands] at fits
      exact ⟨agrees.sound, (fetchChunk_gripper race.loop).trans agrees.slot, agrees.moves, fits⟩
  | _ => exact agrees

theorem advance_agrees (agrees : race.Agrees) : (race.step .advance).Agrees := by
  have fits := agrees.fits
  unfold GripperRace.step
  cases stands : race.thread with
  | advancing input state next =>
      rw [stands] at fits
      refine ⟨put_sound agrees.sound _, ?_, ?_, ?_⟩
      · rw [advance_gripper, put_content, agrees.slot]
      · rw [put_sent agrees.sound]
        exact agrees.moves
      · exact (put_hand race.buffer next.command).trans fits
  | _ => exact agrees

theorem snapshot_agrees (agrees : race.Agrees) : (race.step .snapshot).Agrees := by
  have fits := agrees.fits
  have slot := agrees.slot
  have moves := agrees.moves
  obtain ⟨values, delivered⟩ := race.buffer.copy_values
  unfold GripperRace.step
  cases stands : race.thread with
  | latching input state =>
      rw [stands] at fits
      refine ⟨OneSlot.Buffer.copy_sound agrees.sound, ?_, ?_, ?_⟩
      · unfold OneSlot.Buffer.content OneSlot.Buffer.value
        dsimp only
        rw [values, race.buffer.copy_slot]
        exact slot
      · unfold OneSlot.Buffer.sent OneSlot.Buffer.value
        dsimp only
        rw [values, delivered]
        exact moves
      · change (race.buffer.step .copy).Copied race.loop.targetGripper
        rw [slot]
        exact OneSlot.Buffer.copy_copied fits agrees.sound
  | _ => exact agrees

theorem inFault_agrees (agrees : race.Agrees) : (race.step .inFault).Agrees := by
  have fits := agrees.fits
  have unmoved := (moves_append race .inFault).trans (List.append_nil _)
  unfold GripperRace.step
  cases stands : race.thread with
  | testing input snap =>
      rw [stands] at fits
      dsimp only
      cases input.inFault with
      | error e => exact ⟨agrees.sound, agrees.slot, unmoved.trans agrees.moves, trivial⟩
      | ok faulted => exact ⟨agrees.sound, agrees.slot, unmoved.trans agrees.moves, fits⟩
  | _ => exact agrees

/-- With the calls that are left ending in the gripper's, if any, the next phase fits. -/
theorem after_fits {buffer : OneSlot.Buffer (GripperCommand K)} {held : Option (GripperCommand K)}
    (copied : buffer.Copied held) {pending calls : List (BackendCall K)}
    (mute : ∀ c ∈ calls, c.gripper = none)
    (order : pending = calls ∨ ∃ cmd, held = some cmd ∧ pending = calls ++ [.moveGripper cmd])
    (input : TickInput K) (out : Except Exc Unit) :
    (SlotPhase.after input out false pending).Fits buffer := by
  cases pending with
  | nil =>
      cases out with
      | error e => trivial
      | ok _ =>
          intro i passed
          cases held with
          | none => cases passed.symm.trans copied
          | some cmd =>
              obtain ⟨j, hand, _⟩ := copied
              cases passed.symm.trans hand
  | cons call rest => exact ⟨calls, held, mute, copied, order⟩

theorem enter_agrees (agrees : race.Agrees) : (race.step .enter).Agrees := by
  have fits := agrees.fits
  unfold GripperRace.step
  cases stands : race.thread with
  | waiting input snap =>
      rw [stands] at fits
      obtain ⟨calls, mute, result⟩ := hands_writeSection input snap race.loop.robot
        { loop := race.loop }
      refine ⟨agrees.sound, agrees.slot, agrees.moves, ?_⟩
      apply after_fits fits mute
      rcases result with ⟨made, _⟩ | ⟨cmd, same, made, _⟩
      · exact Or.inl made
      · exact Or.inr ⟨cmd, same, made⟩
  | _ => exact agrees

theorem moved_agrees (agrees : race.Agrees) {input : TickInput K} {cmd : GripperCommand K}
    {out : Except Exc Unit} (copied : race.buffer.Copied (some cmd)) :
    ({ race with
        thread := .after input out true []
        calls := race.calls ++ [.write (.moveGripper cmd)]
        buffer := race.buffer.step .pass } : GripperRace K).Agrees := by
  have sent := OneSlot.Buffer.pass_sent copied
  obtain ⟨i, hand, found⟩ := copied
  refine ⟨OneSlot.Buffer.pass_sound agrees.sound, ?_, ?_, ?_⟩
  · dsimp only
    rw [OneSlot.Buffer.step_pass hand]
    exact agrees.slot
  · refine (moves_append race (.write (.moveGripper cmd))).trans ?_
    rw [sent, agrees.moves]
    rfl
  · cases out with
    | error e => trivial
    | ok _ =>
        rw [OneSlot.Buffer.step_pass hand]
        exact ⟨i, rfl⟩

theorem unmoved_agrees (agrees : race.Agrees) {input : TickInput K} {call : BackendCall K}
    (other : call.gripper = none) {out : Except Exc Unit} {held : Option (GripperCommand K)}
    (copied : race.buffer.Copied held) {pending calls : List (BackendCall K)}
    (mute : ∀ c ∈ calls, c.gripper = none)
    (order : pending = calls ∨ ∃ cmd, held = some cmd ∧ pending = calls ++ [.moveGripper cmd]) :
    ({ race with
        thread := .after input out false pending
        calls := race.calls ++ [.write call] } : GripperRace K).Agrees := by
  refine ⟨agrees.sound, agrees.slot, ?_, after_fits copied mute order input out⟩
  refine (moves_append race (.write call)).trans ?_
  change race.moves ++ call.gripper.toList = _
  rw [other, Option.toList_none, List.append_nil]
  exact agrees.moves

theorem call_agrees (agrees : race.Agrees) : (race.step .call).Agrees := by
  have fits := agrees.fits
  unfold GripperRace.step
  cases stands : race.thread with
  | writing input call rest out =>
      rw [stands] at fits
      obtain ⟨calls, held, mute, copied, order⟩ := fits
      cases calls with
      | nil =>
          rcases order with none | ⟨cmd, same, last⟩
          · cases none
          · cases last
            subst same
            exact moved_agrees agrees copied
      | cons first more =>
          rw [List.forall_mem_cons] at mute
          obtain ⟨same, left⟩ : call = first ∧ (rest = more ∨ ∃ cmd, held = some cmd ∧
              rest = more ++ [.moveGripper cmd]) := by
            rcases order with only | ⟨cmd, same, only⟩
            · cases only
              exact ⟨rfl, Or.inl rfl⟩
            · cases only
              exact ⟨rfl, Or.inr ⟨cmd, same, rfl⟩⟩
          subst same
          dsimp only
          rw [mute.1]
          exact unmoved_agrees agrees mute.1 copied mute.2 left
  | _ => exact agrees

theorem clear_agrees (agrees : race.Agrees) : (race.step .clear).Agrees := by
  have fits := agrees.fits
  have sound := OneSlot.Buffer.clear_sound agrees.sound
  unfold GripperRace.step
  cases stands : race.thread with
  | clearing input =>
      rw [stands] at fits
      obtain ⟨i, hand⟩ := fits
      refine ⟨sound, ?_, ?_, ?_⟩
      · dsimp only
        rw [OneSlot.Buffer.step_clear hand]
        rfl
      · dsimp only
        rw [OneSlot.Buffer.step_clear hand]
        exact agrees.moves
      · intro j passed
        dsimp only at passed
        rw [OneSlot.Buffer.step_clear hand] at passed
        cases passed
  | _ => exact agrees

theorem finish_agrees (agrees : race.Agrees) : (race.step .finish).Agrees := by
  have fits := agrees.fits
  have slot := agrees.slot
  have moves := agrees.moves
  obtain ⟨values, filled, delivered⟩ := race.buffer.drop_values
  unfold GripperRace.step
  cases stands : race.thread with
  | finishing input =>
      rw [stands] at fits
      refine ⟨OneSlot.Buffer.drop_sound agrees.sound, ?_, ?_, OneSlot.Buffer.drop_free fits⟩
      · unfold OneSlot.Buffer.content OneSlot.Buffer.value
        dsimp only
        rw [values, filled, diagnose_targetGripper]
        exact slot
      · unfold OneSlot.Buffer.sent OneSlot.Buffer.value
        dsimp only
        rw [values, delivered]
        exact moves
  | _ => exact agrees

theorem handleCrash_agrees (agrees : race.Agrees) : (race.step .handleCrash).Agrees := by
  have unmoved := (moves_append race (.write .stop)).trans (List.append_nil _)
  unfold GripperRace.step
  cases race.thread with
  | crashing => exact ⟨agrees.sound, agrees.slot, unmoved.trans agrees.moves, trivial⟩
  | _ => exact agrees

theorem GripperRace.step_agrees (agrees : race.Agrees) (event : SlotEvent K) :
    (race.step event).Agrees := by
  cases event with
  | publish p => exact publish_agrees agrees p
  | test => exact test_agrees agrees
  | read input => exact read_agrees agrees input
  | fetch => exact fetch_agrees agrees
  | advance => exact advance_agrees agrees
  | snapshot => exact snapshot_agrees agrees
  | inFault => exact inFault_agrees agrees
  | enter => exact enter_agrees agrees
  | call => exact call_agrees agrees
  | clear => exact clear_agrees agrees
  | finish => exact finish_agrees agrees
  | handleCrash => exact handleCrash_agrees agrees

theorem GripperRace.run_agrees (events : List (SlotEvent K)) :
    ∀ {race : GripperRace K}, race.Agrees → (race.run events).Agrees := by
  induction events with
  | nil => exact fun agrees => agrees
  | cons event rest ih => exact fun agrees => ih (step_agrees agrees event)

end Steps

def GripperRace.written (race : GripperRace K) : List (BackendCall K) :=
  race.calls.filterMap ThreadCall.written

def publishing (gap : List (Publication K)) : List (SlotEvent K) := gap.map .publish

def pullEvents (input : TickInput K) : List (SlotEvent K) :=
  publishing input.beforeFetch ++ (.fetch :: (publishing input.beforeAdvance ++
    (.advance :: (publishing input.beforeSnapshot ++ [.snapshot, .inFault]))))

/-- The steps of a write section of `n` calls, with the handler for where it raises. -/
def sectionEvents (input : TickInput K) (n : Nat) : List (SlotEvent K) :=
  publishing input.beforeWrite ++ (.enter :: (List.replicate n .call ++
    [.clear, .finish, .handleCrash]))

def slotEvents (input : TickInput K) (n : Nat) : List (SlotEvent K) :=
  .test :: .read input :: match input.state with
    | .error _ => [.handleCrash]
    | .ok _ => pullEvents input ++ match input.inFault with
      | .error _ => [.handleCrash]
      | .ok _ => sectionEvents input n

theorem run_publishing (gap : List (Publication K)) :
    ∀ {race : GripperRace K}, race.thread.holdsLock = false → ∃ buffer,
      race.run (publishing gap) = { race with loop := race.loop.absorb gap, buffer := buffer } := by
  induction gap with
  | nil => exact fun _ => ⟨_, rfl⟩
  | cons p rest ih =>
      intro race unlocked
      have published : race.step (.publish p) =
          { race with loop := p.apply race.loop, buffer := put race.buffer p.command } := by
        unfold GripperRace.step
        dsimp only
        rw [unlocked, Bool.and_false]
        rfl
      obtain ⟨buffer, ran⟩ := @ih (race.step (.publish p)) (by rw [published]; exact unlocked)
      refine ⟨buffer, ?_⟩
      rw [publishing, List.map_cons, GripperRace.run_cons]
      change (race.step (.publish p)).run (publishing rest) = _
      rw [ran, published]
      rfl

theorem run_calls (input : TickInput K) (out : Except Exc Unit) (pending : List (BackendCall K)) :
    ∀ {race : GripperRace K} {moved : Bool}, race.thread = .after input out moved pending →
      ∃ buffer, race.run (List.replicate pending.length .call) =
        { race with
          thread := .after input out (pending.foldl (fun _ call => call.gripper.isSome) moved) []
          calls := race.calls ++ pending.map .write
          buffer := buffer } := by
  induction pending with
  | nil =>
      intro race moved stands
      refine ⟨race.buffer, ?_⟩
      change race = _
      rw [List.foldl_nil, List.map_nil, List.append_nil, ← stands]
  | cons call rest ih =>
      intro race moved stands
      have stands' : race.thread = .writing input call rest out := stands
      have called : race.step .call =
          { race with
            thread := .after input out call.gripper.isSome rest
            calls := race.calls ++ [.write call]
            buffer := if call.gripper.isSome then race.buffer.step .pass else race.buffer } := by
        unfold GripperRace.step
        dsimp only
        rw [stands']
      obtain ⟨buffer, ran⟩ := @ih (race.step .call) call.gripper.isSome (by rw [called])
      refine ⟨buffer, ?_⟩
      rw [List.length_cons, List.replicate_succ, GripperRace.run_cons, ran, called]
      dsimp only
      rw [List.foldl_cons, List.map_cons, List.append_assoc, List.singleton_append]

theorem foldl_mute {calls : List (BackendCall K)} (mute : ∀ c ∈ calls, c.gripper = none) :
    calls.foldl (fun _ call => call.gripper.isSome) false = false := by
  induction calls with
  | nil => rfl
  | cons call rest ih =>
      rw [List.forall_mem_cons] at mute
      rw [List.foldl_cons, mute.1]
      exact ih mute.2

theorem run_enter {input : TickInput K} {race : GripperRace K} {snap : Snapshot K}
    (stands : race.thread = .waiting input snap) {out : Except Exc Unit} {pass : Pass K}
    (ran : writeSection input snap race.loop.robot { loop := race.loop } = (out, pass)) :
    ∃ buffer, race.run (.enter :: List.replicate pass.calls.length .call) =
      { loop := { race.loop with robot := pass.loop.robot, stats := pass.loop.stats }
        thread := .after input out
          (pass.calls.foldl (fun _ call => call.gripper.isSome) false) []
        calls := race.calls ++ pass.calls.map .write
        buffer := buffer } := by
  have entered : race.step .enter =
      { race with
        loop := { race.loop with robot := pass.loop.robot, stats := pass.loop.stats }
        thread := .after input out false pass.calls } := by
    unfold GripperRace.step
    dsimp only
    rw [stands]
    dsimp only
    rw [ran]
  obtain ⟨buffer, called⟩ := @run_calls K _ input out pass.calls (race.step .enter) false
    (by rw [entered])
  refine ⟨buffer, ?_⟩
  rw [GripperRace.run_cons, called, entered]

/-- Left alone, the section's steps leave the loop and the calls that the section does. -/
theorem run_section {input : TickInput K} (race : GripperRace K) {snap : Snapshot K}
    (stands : race.thread = .waiting input snap) {out : Except Exc Unit} {pass : Pass K}
    (ran : writeSection input snap race.loop.robot { loop := race.loop } = (out, pass)) :
    let after := race.run (.enter :: (List.replicate pass.calls.length .call ++
      [.clear, .finish, .handleCrash]))
    (out = .ok () → after.loop = pass.loop.diagnose input ∧
      after.calls = race.calls ++ pass.calls.map .write) ∧
    ∀ e, out = .error e → after.loop = (ReactiveServoLoop.crash pass e).loop ∧
      after.calls = race.calls ++ (ReactiveServoLoop.crash pass e).calls.map .write := by
  intro after
  obtain ⟨buffer, entered⟩ := run_enter stands ran
  obtain ⟨robot, stats, gripper, frame⟩ := keepsFrame_writeSection input snap race.loop.robot
    { loop := race.loop }
  obtain ⟨calls, mute, result⟩ := hands_writeSection input snap race.loop.robot
    { loop := race.loop }
  rw [ran] at frame result
  dsimp only at frame
  simp only [List.nil_append] at result
  have split : after = (race.run (.enter :: List.replicate pass.calls.length .call)).run
      [.clear, .finish, .handleCrash] := by
    rw [← GripperRace.run_append, List.cons_append]
  rw [entered] at split
  have untouched (kept : pass.loop.targetGripper = race.loop.targetGripper) :
      ({ race.loop with robot := pass.loop.robot, stats := pass.loop.stats } :
        ReactiveServoLoop K) = pass.loop := by
    rw [frame] at kept ⊢
    dsimp only at kept
    rw [kept]
  constructor
  · intro returned
    subst returned
    rcases result with ⟨made, kept⟩ | ⟨cmd, _, made, emptied, _⟩
    · have unmoved : pass.calls.foldl (fun _ call => call.gripper.isSome) false = false := by
        rw [made]
        exact foldl_mute mute
      rw [unmoved, untouched kept] at split
      rw [split]
      exact ⟨rfl, rfl⟩
    · have moved : pass.calls.foldl (fun _ call => call.gripper.isSome) false = true := by
        rw [made, List.foldl_append]
        rfl
      have left : ({ race.loop with
          robot := pass.loop.robot, stats := pass.loop.stats, targetGripper := none } :
          ReactiveServoLoop K) = pass.loop := by
        have none := emptied rfl
        rw [frame] at none ⊢
        dsimp only at none
        rw [none]
      rw [moved] at split
      rw [split]
      exact ⟨congrArg (fun loop => ReactiveServoLoop.diagnose loop input) left, rfl⟩
  · intro e failed
    subst failed
    have kept : pass.loop.targetGripper = race.loop.targetGripper := by
      rcases result with ⟨_, kept⟩ | ⟨_, _, _, _, raised⟩
      · exact kept
      · exact raised e rfl
    rw [untouched kept] at split
    rw [split]
    refine ⟨rfl, ?_⟩
    change (race.calls ++ pass.calls.map .write) ++ [.write .stop] =
      race.calls ++ (pass.calls ++ [BackendCall.stop]).map .write
    rw [List.map_append, List.append_assoc]
    rfl

/-- From the state read to the fault test the thread's steps prepare the pass. -/
theorem run_pull (loop : ReactiveServoLoop K) (input : TickInput K) (state : RobotState K)
    (calls : List (ThreadCall K)) (buffer : OneSlot.Buffer (GripperCommand K)) : ∃ buffer',
      GripperRace.run ⟨{ loop with latestState := some state }, .fetching input state, calls, buffer⟩
          (pullEvents input) =
        GripperRace.step ⟨loop.prepare input state,
          .testing input ((loop.prepare input state).snapshot input state false), calls, buffer'⟩
          .inFault := by
  obtain ⟨buffer₁, fetching⟩ := @run_publishing K _ input.beforeFetch
    ⟨{ loop with latestState := some state }, .fetching input state, calls, buffer⟩ rfl
  let fetched := ({ loop with latestState := some state }.absorb input.beforeFetch).fetchChunk
  obtain ⟨buffer₂, advancing⟩ := @run_publishing K _ input.beforeAdvance
    ⟨fetched.2, .advancing input state fetched.1, calls, buffer₁⟩ rfl
  let advanced := (fetched.2.absorb input.beforeAdvance).advance fetched.1 input.advanceClock
  obtain ⟨buffer₃, snapping⟩ := @run_publishing K _ input.beforeSnapshot
    ⟨advanced, .latching input state, calls, put buffer₂ fetched.1.command⟩ rfl
  refine ⟨buffer₃.step .copy, ?_⟩
  rw [pullEvents, GripperRace.run_append, fetching, GripperRace.run_cons]
  change (GripperRace.run ⟨fetched.2, .advancing input state fetched.1, calls, buffer₁⟩ _) = _
  rw [GripperRace.run_append, advancing, GripperRace.run_cons]
  change (GripperRace.run ⟨advanced, .latching input state, calls, put buffer₂ fetched.1.command⟩ _)
    = _
  rw [GripperRace.run_append, snapping, GripperRace.run_cons]
  rfl

/-- Left alone, the thread's steps make up one pass of the loop. -/
theorem GripperRace.pass_eq_tick {loop : ReactiveServoLoop K} (running : loop.running = true)
    (input : TickInput K) : ∃ n,
      ((GripperRace.run { loop := loop } (slotEvents input n)).loop = (loop.tick input).loop ∧
        (GripperRace.run { loop := loop } (slotEvents input n)).written =
          (loop.tick input).calls) := by
  have tested : GripperRace.step { loop := loop } .test = { loop := loop, thread := .reading } := by
    change { ({ loop := loop } : GripperRace K) with
      thread := if loop.running then .reading else .ended } = _
    rw [if_pos running]
  unfold slotEvents ReactiveServoLoop.tick ReactiveServoLoop.arrive
  cases read : input.state with
  | error e =>
      refine ⟨0, ?_⟩
      rw [run_cons, tested, run_cons]
      have raised : GripperRace.step { loop := loop, thread := .reading } (.read input) =
          { loop := loop, thread := .crashing, calls := [.readState] } := by
        unfold GripperRace.step
        dsimp only
        rw [read]
        rfl
      rw [raised]
      exact ⟨rfl, rfl⟩
  | ok state =>
      have reached : GripperRace.step { loop := loop, thread := .reading } (.read input) =
          ⟨{ loop with latestState := some state }, .fetching input state, [.readState], {}⟩ := by
        unfold GripperRace.step
        dsimp only
        rw [read]
        rfl
      obtain ⟨buffer, pulled⟩ := run_pull loop input state [.readState] {}
      dsimp only
      cases asked : input.inFault with
      | error e =>
          refine ⟨0, ?_⟩
          have raised : GripperRace.step ⟨loop.prepare input state,
              .testing input ((loop.prepare input state).snapshot input state false),
              [.readState], buffer⟩ .inFault =
              ⟨loop.prepare input state, .crashing, [.readState, .inFault], buffer⟩ := by
            unfold GripperRace.step
            dsimp only
            rw [asked]
            rfl
          rw [run_cons, tested, run_cons, reached, run_append, pulled, raised]
          exact ⟨rfl, rfl⟩
      | ok faulted =>
          let prepared := loop.prepare input state
          let snap := prepared.snapshot input state faulted
          let found : ReactiveServoLoop K := { prepared with
            stats := { prepared.stats with commandAgeMs := snap.age * Scalar.ofNat 1000 } }
          obtain ⟨buffer', waiting⟩ := @run_publishing K _ input.beforeWrite
            ⟨found, .waiting input snap, [.readState, .inFault], buffer⟩ rfl
          have answered : GripperRace.step ⟨loop.prepare input state,
              .testing input ((loop.prepare input state).snapshot input state false),
              [.readState], buffer⟩ .inFault =
              ⟨found, .waiting input snap, [.readState, .inFault], buffer⟩ := by
            unfold GripperRace.step
            dsimp only
            rw [asked]
            rfl
          dsimp only
          cases ran : writeSection input snap (found.absorb input.beforeWrite).robot
              { loop := found.absorb input.beforeWrite } with
          | mk out pass =>
              have left := run_section ⟨found.absorb input.beforeWrite,
                .waiting input snap, [.readState, .inFault], buffer'⟩ rfl ran
              refine ⟨pass.calls.length, ?_⟩
              rw [run_cons, tested, run_cons, reached, run_append, pulled, answered, sectionEvents,
                run_append, waiting]
              unfold written
              cases out with
              | error e =>
                  obtain ⟨loop_eq, calls_eq⟩ := left.2 e rfl
                  rw [loop_eq, calls_eq, List.filterMap_append, written_writes]
                  exact ⟨rfl, rfl⟩
              | ok _ =>
                  obtain ⟨loop_eq, calls_eq⟩ := left.1 rfl
                  rw [loop_eq, calls_eq, List.filterMap_append, written_writes]
                  exact ⟨rfl, rfl⟩

/-! ### No command vanishes -/

/-- A loop with an empty slot, its thread about to test the flag. -/
def GripperRace.fresh (loop : ReactiveServoLoop K) : GripperRace K where
  loop := loop

theorem GripperRace.fresh_agrees {loop : ReactiveServoLoop K} (empty : loop.targetGripper = none) :
    (GripperRace.fresh loop).Agrees where
  sound := OneSlot.Buffer.sound_empty
  slot := empty
  moves := rfl
  fits := rfl

/-- Whenever a command leaves the slot it was passed to the gripper or a later one replaced
it, and none is passed on twice. -/
structure GripperRace.KeepsCommands (race : GripperRace K) (events : List (SlotEvent K)) :
    Prop where
  kept : ∀ front event rest, events = front ++ event :: rest →
    ¬ (race.run front).buffer.Loses ((race.run front).step event).buffer
  once : (race.run events).buffer.delivered.Nodup

def SlotPhase.clears : SlotPhase K → Bool
  | .clearing _ => true
  | _ => false

/-- Whenever the thread empties the slot, the command it passed on is the last published. -/
def GripperRace.Undisturbed (race : GripperRace K) (events : List (SlotEvent K)) : Prop :=
  ∀ front rest, events = front ++ .clear :: rest → (race.run front).thread.clears = true →
    ¬ (race.run front).buffer.Overtaken

theorem put_keeps {buffer : OneSlot.Buffer (GripperCommand K)} (sound : buffer.Sound)
    (command : Option (GripperCommand K)) : ¬ buffer.Loses (put buffer command) := by
  cases command with
  | none => exact OneSlot.Buffer.not_loses_of_slot rfl
  | some cmd => exact OneSlot.Buffer.publish_keeps sound cmd

theorem GripperRace.step_keeps {race : GripperRace K} (agrees : race.Agrees)
    {event : SlotEvent K} (other : event ≠ .clear) :
    ¬ race.buffer.Loses (race.step event).buffer := by
  have idle : ¬ race.buffer.Loses race.buffer := OneSlot.Buffer.not_loses_of_slot rfl
  unfold step
  cases event with
  | publish p =>
      dsimp only
      split
      · exact idle
      · exact put_keeps agrees.sound p.command
  | test => cases race.thread <;> exact idle
  | read input =>
      cases race.thread with
      | reading =>
          dsimp only
          cases input.state <;> exact idle
      | _ => exact idle
  | fetch => cases race.thread <;> exact idle
  | advance =>
      cases race.thread with
      | advancing input state next => exact put_keeps agrees.sound next.command
      | _ => exact idle
  | snapshot =>
      cases race.thread with
      | latching input state => exact OneSlot.Buffer.not_loses_of_slot race.buffer.copy_slot
      | _ => exact idle
  | inFault =>
      cases race.thread with
      | testing input snap =>
          dsimp only
          cases input.inFault <;> exact idle
      | _ => exact idle
  | enter => cases race.thread <;> exact idle
  | call =>
      cases race.thread with
      | writing input call rest out =>
          dsimp only
          split
          · exact OneSlot.Buffer.not_loses_of_slot race.buffer.pass_slot
          · exact idle
      | _ => exact idle
  | clear => exact absurd rfl other
  | finish =>
      cases race.thread with
      | finishing input => exact OneSlot.Buffer.not_loses_of_slot race.buffer.drop_values.2.1
      | _ => exact idle
  | handleCrash => cases race.thread <;> exact idle

theorem GripperRace.step_loses_iff {race : GripperRace K} (agrees : race.Agrees)
    (event : SlotEvent K) :
    race.buffer.Loses (race.step event).buffer ↔
      event = .clear ∧ race.thread.clears = true ∧ race.buffer.Overtaken := by
  by_cases clearing : event = .clear
  · subst clearing
    unfold step
    cases stands : race.thread with
    | clearing input =>
        have exact_when := OneSlot.Buffer.clear_loses_iff agrees.sound
        constructor
        · exact fun loses => ⟨rfl, rfl, exact_when.mp loses⟩
        · exact fun overtaken => exact_when.mpr overtaken.2.2
    | _ =>
        constructor
        · exact fun loses => absurd loses (OneSlot.Buffer.not_loses_of_slot rfl)
        · rintro ⟨_, clears, _⟩
          cases clears
  · constructor
    · exact fun loses => absurd loses (step_keeps agrees clearing)
    · exact fun same => absurd same.1 clearing

theorem commands_kept_iff {loop : ReactiveServoLoop K} (empty : loop.targetGripper = none)
    (events : List (SlotEvent K)) :
    (GripperRace.fresh loop).KeepsCommands events ↔
      (GripperRace.fresh loop).Undisturbed events := by
  have agrees (front : List (SlotEvent K)) : ((GripperRace.fresh loop).run front).Agrees :=
    GripperRace.run_agrees front (GripperRace.fresh_agrees empty)
  constructor
  · intro keeps front rest split clears overtaken
    exact keeps.kept front .clear rest split
      ((GripperRace.step_loses_iff (agrees front) .clear).mpr ⟨rfl, clears, overtaken⟩)
  · intro undisturbed
    refine ⟨?_, (agrees events).sound.once⟩
    intro front event rest split loses
    obtain ⟨same, clears, overtaken⟩ :=
      (GripperRace.step_loses_iff (agrees front) event).mp loses
    subst same
    exact undisturbed front rest split clears overtaken

end Slot

section TwoCommands

noncomputable def standingLoop : ReactiveServoLoop ℝ :=
  { ReactiveServoLoop.init tabletopRobot with targetPose := some overTable, running := true }

noncomputable def poisedPass : TickInput ℝ where
  state := .ok poised
  stateClock := 0
  advanceClock := 0
  ageClock := 0

noncomputable def squeeze : GripperCommand ℝ := { grasp := true }

noncomputable def letGo : GripperCommand ℝ := { width := Scalar.ofRat (1 / 10) }

noncomputable def overTableWith (cmd : GripperCommand ℝ) : Publication ℝ :=
  .cartesianTarget [1 / 2, 0, 3 / 10, 1, 0, 0, 0] (some cmd) 0

noncomputable def latched : List (SlotEvent ℝ) :=
  [.publish (overTableWith squeeze), .test, .read poisedPass, .fetch, .advance, .snapshot, .inFault]

theorem poised_lets : exceeds poised.wrench tabletop.maxContactWrench = false := by
  rw [Bool.eq_false_iff, ne_eq, exceeds_real]
  rintro ⟨axis, heavy⟩
  change tabletop.maxContactWrench axis < |(0 : ℝ)| at heavy
  rw [abs_zero] at heavy
  revert heavy
  fin_cases axis <;> norm_num [tabletop]

theorem overTable_section {snap : Snapshot ℝ} {loop : ReactiveServoLoop ℝ}
    (robot : loop.robot = tabletopRobot) (follows : snap.follows tabletopRobot.filter = true)
    (space : snap.cartesian = true) (aimed : snap.targetPose = some overTable)
    (stands : snap.state = poised) {cmd : GripperCommand ℝ} (held : snap.gripper = some cmd) :
    ∃ pose loop', writeSection poisedPass snap loop.robot { loop := loop } =
      (.ok (), { loop := loop', calls := [.streamCartesian pose none, .moveGripper cmd] }) := by
  have boxed : limitWorkspace tabletopRobot.filter.p
      { target := overTable, clipped := false, reasons := [] } =
      some { target := overTable, clipped := false, reasons := [] } :=
    limitWorkspace_of_contains (overTable_contains rfl rfl rfl)
  obtain ⟨sr, pose, filter', passed, ok, found⟩ : ∃ sr pose filter',
      tabletopRobot.filter.filterCartesian overTable poised = (sr, filter') ∧ sr.ok = true ∧
        sr.pose = some pose :=
    ⟨_, _, _, SafetyFilter.filterCartesian_of_limited poised_lets boxed, rfl, rfl⟩
  obtain ⟨healthy, young, recent⟩ := snap.follows_parts follows
  refine ⟨pose, ReactiveServoLoop.reportResult
    { loop.withFilter filter' with targetGripper := none } sr, ?_⟩
  rw [robot]
  unfold writeSection
  simp only [healthy, young, recent, space, aimed]
  change liveCartesian poisedPass snap.state tabletopRobot overTable snap.gripper _ = _
  unfold liveCartesian
  rw [stands, held, passed]
  dsimp only
  rw [update_bind, ok, found]
  rfl

theorem run_latched : ∃ loop snap, (GripperRace.fresh standingLoop).run latched =
      ⟨loop, .waiting poisedPass snap, [.readState, .inFault],
        { values := [squeeze], slot := some 0, hand := .copied 0 }⟩ ∧
    loop.robot = tabletopRobot ∧ loop.filter = tabletopRobot.filter ∧
    snap.follows tabletopRobot.filter = true ∧ snap.cartesian = true ∧
    snap.targetPose = some overTable ∧ snap.state = poised ∧ snap.gripper = some squeeze := by
  refine ⟨_, _, rfl, rfl, rfl, follows_of_fresh rfl rfl (sub_self 0), rfl, ?_, rfl, rfl⟩
  rfl

/-- From the writer lock on, the copy is passed on and the slot is about to be emptied. -/
theorem run_moved (race : GripperRace ℝ) {snap : Snapshot ℝ}
    (waits : race.thread = .waiting poisedPass snap) (robot : race.loop.robot = tabletopRobot)
    (follows : snap.follows tabletopRobot.filter = true) (space : snap.cartesian = true)
    (aimed : snap.targetPose = some overTable) (stands : snap.state = poised)
    {cmd : GripperCommand ℝ} (held : snap.gripper = some cmd) :
    (race.run [.enter, .call, .call]).thread = .clearing poisedPass ∧
      (race.run [.enter, .call, .call]).buffer = race.buffer.step .pass := by
  obtain ⟨pose, loop', wrote⟩ := overTable_section robot follows space aimed stands held
  have entered : race.step .enter =
      { race with
        loop := { race.loop with robot := loop'.robot, stats := loop'.stats }
        thread := .writing poisedPass (.streamCartesian pose none) [.moveGripper cmd] (.ok ()) } := by
    unfold GripperRace.step
    dsimp only
    rw [waits]
    dsimp only
    rw [wrote]
    rfl
  rw [GripperRace.run_cons, entered]
  exact ⟨rfl, rfl⟩

noncomputable def handing : List (SlotEvent ℝ) := latched ++ [.enter, .call, .call]

theorem handing_undisturbed :
    (GripperRace.fresh standingLoop).Undisturbed (handing ++ [.clear]) := by
  obtain ⟨loop, snap, ran, robot, _, follows, space, aimed, stands, held⟩ := run_latched
  have once : ∀ event ∈ handing, event ≠ .clear := by
    simp only [handing, latched, List.cons_append, List.nil_append, List.forall_mem_cons, ne_eq,
      reduceCtorEq, not_false_eq_true, true_and, List.not_mem_nil, false_implies, implies_true]
  intro front rest split
  have whole : front = handing := by
    rcases List.append_eq_append_iff.mp split with ⟨more, longer, short⟩ | ⟨more, earlier, cleared⟩
    · cases more with
      | nil => exact longer.trans (List.append_nil _)
      | cons event others =>
          have lengths := congrArg List.length short
          simp only [List.length_append, List.length_cons, List.length_nil] at lengths
          omega
    · cases more with
      | nil => exact ((List.append_nil _).symm.trans earlier.symm)
      | cons event others =>
          cases cleared
          exact absurd rfl (once .clear (earlier ▸ List.mem_append_right _ List.mem_cons_self))
  subst whole
  rintro _ ⟨i, passed, behind⟩
  have moved := (run_moved ⟨loop, .waiting poisedPass snap, [.readState, .inFault],
    { values := [squeeze], slot := some 0, hand := .copied 0 }⟩ rfl robot follows space aimed
    stands held).2
  rw [handing, GripperRace.run_append, ran, moved] at passed behind
  cases passed
  exact behind rfl

/-- A command with nothing published after it leaves the slot sent. -/
theorem commands_kept_iff_undisturbed :
    (GripperRace.fresh standingLoop).KeepsCommands (handing ++ [.clear]) :=
  (commands_kept_iff rfl _).mpr handing_undisturbed

noncomputable def overtaking : List (SlotEvent ℝ) :=
  latched ++ [.publish (overTableWith letGo), .enter, .call, .call]

/-- The second command is erased unsent. -/
theorem overtaking_loses_command :
    ¬ (GripperRace.fresh standingLoop).KeepsCommands (overtaking ++ [.clear]) := by
  intro keeps
  obtain ⟨loop, snap, ran, robot, _, follows, space, aimed, stands, held⟩ := run_latched
  have before : (GripperRace.fresh standingLoop).run overtaking =
      GripperRace.run ⟨(overTableWith letGo).apply loop, .waiting poisedPass snap,
        [.readState, .inFault],
        { values := [squeeze, letGo], slot := some 1, hand := .copied 0 }⟩
        [.enter, .call, .call] := by
    rw [overtaking, GripperRace.run_append, ran]
    rfl
  obtain ⟨thread, buffer⟩ := run_moved
    ⟨(overTableWith letGo).apply loop, .waiting poisedPass snap, [.readState, .inFault],
      { values := [squeeze, letGo], slot := some 1, hand := .copied 0 }⟩ rfl robot follows space
    aimed stands held
  rw [← before] at thread buffer
  apply keeps.kept overtaking .clear [] rfl
  unfold GripperRace.step
  dsimp only
  rw [thread]
  dsimp only
  rw [buffer]
  refine ⟨1, rfl, ?_, ?_, ?_⟩
  · intro filled
    cases filled
  · intro member
    cases List.mem_singleton.mp member
  · intro j filled
    cases filled

end TwoCommands

end FlexivControl
