import Mathlib.Data.List.Induction

/-!
# Histories

A history is a list of events in the order in which they happened. A property of an event and of
what happened before it holds along a history if it holds at every position.
-/

namespace LkRequest.Library

open List

variable {α : Type} {property : List α → α → Prop} {history later : List α}

/-- At every position of the history, the property holds of the events before it and the event. -/
def Along (property : List α → α → Prop) (history : List α) : Prop :=
  ∀ before event after, history = before ++ event :: after → property before event

theorem along_nil (property : List α → α → Prop) : Along property [] := by
  intro before event after heq
  simp at heq

/-- A history goes on: the property holds along it, and of the next event. -/
theorem along_concat {next : α} :
    Along property (history ++ [next]) ↔ Along property history ∧ property history next := by
  constructor
  · intro halong
    refine ⟨?_, halong history next [] rfl⟩
    intro before event after heq
    apply halong before event (after ++ [next])
    rw [heq, append_assoc, cons_append]
  · rintro ⟨halong, hnext⟩ before event after heq
    rcases eq_nil_or_concat after with rfl | ⟨rest, last, rfl⟩
    · obtain ⟨rfl, hlast⟩ := append_inj' heq rfl
      cases hlast
      exact hnext
    · have hinit : history ++ [next] = (before ++ event :: rest) ++ [last] := by
        rw [heq, concat_eq_append, append_assoc, cons_append]
      obtain ⟨rfl, -⟩ := append_inj' hinit rfl
      exact halong before event rest rfl

theorem Along.of_append (halong : Along property (history ++ later)) : Along property history := by
  intro before event after heq
  apply halong before event (after ++ later)
  rw [heq, append_assoc, cons_append]

/-- Events at which the property says nothing do not matter. -/
theorem along_append_of_forall (hlater : ∀ event ∈ later, ∀ before, property before event) :
    Along property (history ++ later) ↔ Along property history := by
  induction later using List.reverseRecOn with
  | nil => rw [append_nil]
  | append_singleton later last ih =>
    rw [← append_assoc, along_concat]
    rw [ih fun event hevent => hlater event (mem_append_left _ hevent)]
    exact and_iff_left (hlater last (by simp) _)

end LkRequest.Library
