/-
  The stage under any schedule.

  A stage that settles makes its steps in one fixed order.  Here they come one at a time and in any
  order: who can go on may go on.

  * `Stage.turn?` makes a step of the party whose turn it is;
  * `exists_turn_of_next?`: whatever a stage does to settle is such a step.
-/
import PlatformCore.Stage.Basic

namespace PlatformCore.Stage

open Bus

/-- Whose turn it is, and for what. -/
inductive Turn where
  /-- A thread calls publish with the next of its events, or its call offers the event. -/
  | send (t : Thread)
  | takeEvent
  | takeStop
  | proceed
  | work
  | goOn (t : Thread)
deriving DecidableEq, Repr

def turn? (s : Stage) : Turn → Option (Stage × List Mark)
  | .send t =>
    match s.bus.calls.get? t, s.outbox.get? t with
    | some (.publishing _), _ => s.step? (.offer t)
    | none, some (e :: es) => { s with outbox := s.outbox.insert t es }.step? (.publish t e)
    | _, _ => none
  | .takeEvent => s.step? .takeEvent
  | .takeStop => s.step? .takeStop
  | .proceed => (s.step? .proceed).map fun r => (r.1.react, r.2)
  | .work =>
    match s.bus.calls.get? .dispatch, s.bus.phase with
    | none, .handling _ _ => s.work?
    | _, _ => none
  | .goOn t => s.goOn? t

variable {s : Stage} {t : Thread} {o : Offer} {r : Stage × List Mark}

theorem turn?_send (h : s.bus.calls.get? t = some (.publishing o)) :
    s.turn? (.send t) = s.step? (.offer t) := by
  simp only [turn?, h]

theorem turn?_of_send? (h : send? t s = some r) : s.turn? (.send t) = some r := by
  simp only [send?] at h
  split at h
  · next hc =>
    rw [turn?_send hc]
    split at h
    · cases h
    · exact h
  · next hc ho =>
    simp only [turn?, hc, ho]
    exact h
  · cases h

theorem turn?_of_stall? (h : stall? t s = some r) : s.turn? (.send t) = some r := by
  simp only [stall?] at h
  split at h
  · next hc =>
    rw [turn?_send hc]
    split at h
    · cases h
    · exact h
  · cases h

theorem exists_turn_of_dispatch? (h : s.dispatch? = some r) : ∃ u, s.turn? u = some r := by
  simp only [dispatch?] at h
  split at h
  · rcases Option.or_eq_some_iff.1 h with h | ⟨-, h⟩
    · exact ⟨_, turn?_of_send? h⟩
    · exact ⟨_, turn?_of_stall? h⟩
  · next hc hp => exact ⟨.work, by simp only [turn?, hc, hp]; exact h⟩
  · rcases Option.or_eq_some_iff.1 h with h | ⟨-, h⟩
    · exact ⟨.takeEvent, h⟩
    · exact ⟨.takeStop, h⟩
  · exact ⟨.proceed, h⟩

/-- **What a stage does by itself** is a step that it may make. -/
theorem exists_turn_of_next? (h : s.next? = some r) : ∃ u, s.turn? u = some r := by
  simp only [next?, Option.or_eq_some_iff] at h
  rcases h with h | ⟨-, h | ⟨-, h | ⟨-, h | ⟨-, h | ⟨-, h⟩⟩⟩⟩⟩
  · exact ⟨_, turn?_of_send? h⟩
  · exact ⟨_, turn?_of_send? h⟩
  · exact exists_turn_of_dispatch? h
  · exact ⟨_, turn?_of_stall? h⟩
  · exact ⟨_, turn?_of_stall? h⟩
  · exact ⟨.goOn closer, h⟩

end PlatformCore.Stage
