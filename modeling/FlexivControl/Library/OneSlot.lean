/-
A buffer with room for one value.

Writers put values into the slot, each replacing the one before. A reader copies the slot,
passes the copy on, and then empties the slot without looking at it again. Every value has
the number of its publication, so that equal values stay apart.
-/

import Mathlib

namespace OneSlot

/-- What the reader has in hand: nothing, a copy not passed on yet, or one passed on. -/
inductive Hand where
  | free
  | copied (i : Nat)
  | passed (i : Nat)
  deriving DecidableEq, Repr

structure Buffer (α : Type) where
  values : List α := []
  slot : Option Nat := none
  hand : Hand := .free
  delivered : List Nat := []

inductive Step (α : Type) where
  | publish (a : α)
  | copy
  | pass
  | clear
  | drop

variable {α : Type}

namespace Buffer

/-- One step; the reader's steps out of turn leave everything as it is. -/
def step (b : Buffer α) : Step α → Buffer α
  | .publish a => { b with values := b.values ++ [a], slot := some b.values.length }
  | .copy =>
      match b.hand, b.slot with
      | .free, some i => { b with hand := .copied i }
      | _, _ => b
  | .pass =>
      match b.hand with
      | .copied i => { b with hand := .passed i, delivered := b.delivered ++ [i] }
      | _ => b
  | .clear =>
      match b.hand with
      | .passed _ => { b with hand := .free, slot := none }
      | _ => b
  | .drop =>
      match b.hand with
      | .copied _ => { b with hand := .free }
      | _ => b

def value (b : Buffer α) (i : Nat) : Option α := b.values[i]?

def content (b : Buffer α) : Option α := b.slot.bind b.value

def sent (b : Buffer α) : List α := b.delivered.filterMap b.value

/-- The number in the slot changes though its value was not passed on and no later one
replaced it. -/
def Loses (b b' : Buffer α) : Prop :=
  ∃ i, b.slot = some i ∧ b'.slot ≠ some i ∧ i ∉ b.delivered ∧ ∀ j, b'.slot = some j → j ≤ i

/-- The reader has passed on a value that is not the last one published. -/
def Overtaken (b : Buffer α) : Prop := ∃ i, b.hand = .passed i ∧ i + 1 ≠ b.values.length

def InHand (b : Buffer α) : Hand → Prop
  | .free => ∀ i, b.slot = some i → i ∉ b.delivered
  | .copied i => i < b.values.length ∧ i ∉ b.delivered ∧ b.slot ≠ none ∧
      ∀ j, b.slot = some j → j ∉ b.delivered
  | .passed i => i ∈ b.delivered ∧ b.slot ≠ none ∧
      ∀ j, b.slot = some j → j ∈ b.delivered → j = i

structure Sound (b : Buffer α) : Prop where
  last : ∀ i, b.slot = some i → i + 1 = b.values.length
  past : ∀ i ∈ b.delivered, i < b.values.length
  once : b.delivered.Nodup
  hand : b.InHand b.hand

theorem sound_empty : (({} : Buffer α)).Sound where
  last := by
    intro i filled
    cases filled
  past := by
    intro i member
    cases member
  once := List.nodup_nil
  hand := by
    intro i filled
    cases filled

theorem publish_sound {b : Buffer α} (sound : b.Sound) (a : α) : (b.step (.publish a)).Sound := by
  have fresh : b.values.length ∉ b.delivered :=
    fun member => Nat.lt_irrefl _ (sound.past _ member)
  have longer : (b.values ++ [a]).length = b.values.length + 1 := by
    rw [List.length_append, List.length_singleton]
  constructor
  · intro i filled
    cases filled
    exact longer.symm
  · intro i member
    exact (sound.past i member).trans (longer ▸ Nat.lt_succ_self _)
  · exact sound.once
  · have inHand := sound.hand
    change (b.step (.publish a)).InHand b.hand
    cases held : b.hand with
    | free =>
        intro i filled
        cases filled
        exact fresh
    | copied i =>
        rw [held] at inHand
        refine ⟨inHand.1.trans (longer ▸ Nat.lt_succ_self _), inHand.2.1, ?_, ?_⟩
        · intro none
          cases none
        · intro j filled
          cases filled
          exact fresh
    | passed i =>
        rw [held] at inHand
        refine ⟨inHand.1, ?_, ?_⟩
        · intro none
          cases none
        · intro j filled member
          cases filled
          exact absurd member fresh

theorem step_copy {b : Buffer α} (free : b.hand = .free) {i : Nat} (filled : b.slot = some i) :
    b.step .copy = { b with hand := .copied i } := by
  unfold step
  rw [free, filled]

/-- A reader with something in hand, or with nothing to copy, copies nothing. -/
theorem step_copy_idle {b : Buffer α} (idle : b.hand ≠ .free ∨ b.slot = none) :
    b.step .copy = b := by
  unfold step
  dsimp only
  split
  · rename_i free filled
    rcases idle with busy | empty
    · exact absurd free busy
    · rw [empty] at filled
      cases filled
  · rfl

theorem copy_sound {b : Buffer α} (sound : b.Sound) : (b.step .copy).Sound := by
  have inHand := sound.hand
  by_cases free : b.hand = .free
  · rw [free] at inHand
    cases filled : b.slot with
    | none =>
        rw [step_copy_idle (Or.inr filled)]
        exact sound
    | some i =>
        rw [step_copy free filled]
        refine ⟨sound.last, sound.past, sound.once, ?_, inHand i filled, ?_, inHand⟩
        · rw [← sound.last i filled]
          exact Nat.lt_succ_self i
        · change b.slot ≠ none
          rw [filled]
          exact Option.some_ne_none i
  · rw [step_copy_idle (Or.inl free)]
    exact sound

theorem pass_sound {b : Buffer α} (sound : b.Sound) : (b.step .pass).Sound := by
  have inHand := sound.hand
  unfold step
  cases held : b.hand with
  | free => exact sound
  | copied i =>
      rw [held] at inHand
      obtain ⟨earlier, fresh, filled, unsent⟩ := inHand
      have added : (b.delivered ++ [i]).Nodup :=
        List.nodup_append.mpr ⟨sound.once, List.nodup_singleton i, by
          rintro j member k single rfl
          rw [List.mem_singleton] at single
          exact fresh (single ▸ member)⟩
      refine ⟨sound.last, ?_, added, List.mem_append_right _ (List.mem_singleton_self i), filled, ?_⟩
      · intro j member
        rcases List.mem_append.mp member with before | single
        · exact sound.past j before
        · rw [List.mem_singleton.mp single]
          exact earlier
      · intro j here member
        rcases List.mem_append.mp member with before | single
        · exact absurd before (unsent j here)
        · exact List.mem_singleton.mp single
  | passed i => exact sound

theorem clear_sound {b : Buffer α} (sound : b.Sound) : (b.step .clear).Sound := by
  unfold step
  cases held : b.hand with
  | free => exact sound
  | copied i => exact sound
  | passed i =>
      refine ⟨?_, sound.past, sound.once, ?_⟩
      · intro j filled
        cases filled
      · intro j filled
        cases filled

theorem drop_sound {b : Buffer α} (sound : b.Sound) : (b.step .drop).Sound := by
  have inHand := sound.hand
  unfold step
  cases held : b.hand with
  | free => exact sound
  | copied i =>
      rw [held] at inHand
      exact ⟨sound.last, sound.past, sound.once, inHand.2.2.2⟩
  | passed i => exact sound

def Copied (b : Buffer α) : Option α → Prop
  | none => b.hand = .free
  | some a => ∃ i, b.hand = .copied i ∧ b.value i = some a

theorem publish_content (b : Buffer α) (a : α) : (b.step (.publish a)).content = some a :=
  List.getElem?_concat_length

theorem publish_value {b : Buffer α} {i : Nat} (early : i < b.values.length) (a : α) :
    (b.step (.publish a)).value i = b.value i :=
  List.getElem?_append_left early

theorem publish_sent {b : Buffer α} (sound : b.Sound) (a : α) :
    (b.step (.publish a)).sent = b.sent :=
  List.filterMap_congr fun i member => publish_value (sound.past i member) a

theorem publish_copied {b : Buffer α} {held : Option α} (copied : b.Copied held) (a : α) :
    (b.step (.publish a)).Copied held := by
  cases held with
  | none => exact copied
  | some c =>
      obtain ⟨i, hand, found⟩ := copied
      exact ⟨i, hand, (publish_value (List.getElem?_eq_some_iff.mp found).1 a).trans found⟩

/-- Copying takes what the slot holds. -/
theorem copy_copied {b : Buffer α} (free : b.hand = .free) (sound : b.Sound) :
    (b.step .copy).Copied b.content := by
  cases filled : b.slot with
  | none =>
      have empty : b.content = none := by
        rw [content, filled]
        rfl
      rw [step_copy_idle (Or.inr filled), empty]
      exact free
  | some i =>
      have bound : i < b.values.length := by
        rw [← sound.last i filled]
        exact Nat.lt_succ_self i
      have held : b.content = some b.values[i] := by
        rw [content, filled]
        exact List.getElem?_eq_getElem bound
      rw [step_copy free filled, held]
      exact ⟨i, rfl, List.getElem?_eq_getElem bound⟩

theorem copy_values (b : Buffer α) : (b.step .copy).values = b.values ∧
    (b.step .copy).delivered = b.delivered := by
  unfold step
  dsimp only
  split <;> exact ⟨rfl, rfl⟩

theorem step_pass {b : Buffer α} {i : Nat} (hand : b.hand = .copied i) :
    b.step .pass = { b with hand := .passed i, delivered := b.delivered ++ [i] } := by
  unfold step
  rw [hand]

theorem step_clear {b : Buffer α} {i : Nat} (hand : b.hand = .passed i) :
    b.step .clear = { b with hand := .free, slot := none } := by
  unfold step
  rw [hand]

/-- Dropping a copy leaves everything but the reader's hand. -/
theorem drop_values (b : Buffer α) : (b.step .drop).values = b.values ∧
    (b.step .drop).slot = b.slot ∧ (b.step .drop).delivered = b.delivered := by
  unfold step
  dsimp only
  split <;> exact ⟨rfl, rfl, rfl⟩

theorem drop_free {b : Buffer α} (kept : ∀ i, b.hand ≠ .passed i) :
    (b.step .drop).hand = .free := by
  unfold step
  cases held : b.hand with
  | free => exact held
  | copied i => rfl
  | passed i => exact absurd held (kept i)

theorem pass_sent {b : Buffer α} {a : α} (copied : b.Copied (some a)) :
    (b.step .pass).sent = b.sent ++ [a] := by
  obtain ⟨i, hand, found⟩ := copied
  rw [step_pass hand]
  change (b.delivered ++ [i]).filterMap b.value = _
  rw [List.filterMap_append]
  congr 1
  rw [List.filterMap_cons, found]
  rfl

/-- A number that stays in the slot is not lost. -/
theorem not_loses_of_slot {b b' : Buffer α} (same : b'.slot = b.slot) : ¬ b.Loses b' := by
  rintro ⟨i, filled, gone, _⟩
  exact gone (same.trans filled)

theorem publish_keeps {b : Buffer α} (sound : b.Sound) (a : α) : ¬ b.Loses (b.step (.publish a)) := by
  rintro ⟨i, filled, _, _, earlier⟩
  have later := earlier _ rfl
  have last := sound.last i filled
  omega

theorem copy_slot (b : Buffer α) : (b.step .copy).slot = b.slot := by
  unfold step
  dsimp only
  split <;> rfl

theorem pass_slot (b : Buffer α) : (b.step .pass).slot = b.slot := by
  unfold step
  cases b.hand <;> rfl

/-- Only a clearing loses a number, and does so exactly if one was published after the
number that was passed on. -/
theorem clear_loses_iff {b : Buffer α} (sound : b.Sound) :
    b.Loses (b.step .clear) ↔ b.Overtaken := by
  have inHand := sound.hand
  constructor
  · rintro ⟨i, filled, gone, undelivered, _⟩
    unfold step at gone
    cases held : b.hand with
    | free =>
        rw [held] at gone
        exact absurd filled gone
    | copied j =>
        rw [held] at gone
        exact absurd filled gone
    | passed j =>
        rw [held] at inHand
        refine ⟨j, held, ?_⟩
        intro last
        have same : i = j := Nat.succ.inj ((sound.last i filled).trans last.symm)
        exact undelivered (same ▸ inHand.1)
  · rintro ⟨j, held, behind⟩
    rw [held] at inHand
    obtain ⟨_, filled, only⟩ := inHand
    obtain ⟨i, here⟩ := Option.ne_none_iff_exists'.mp filled
    have cleared : (b.step .clear).slot = none := by
      unfold step
      rw [held]
    refine ⟨i, here, ?_, ?_, ?_⟩
    · rw [cleared]
      exact (Option.some_ne_none i).symm
    · intro member
      exact behind (only i here member ▸ sound.last i here)
    · intro k found
      rw [cleared] at found
      cases found

end Buffer

end OneSlot
