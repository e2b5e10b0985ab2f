import Mathlib.Data.List.Basic

/-! # Properties of every moment of a history

A history lists events, newest first. What is required of an event and of all that came before it is required
throughout, and a history that goes on has to meet it only for the event that is new.
-/

namespace Concurrent

open List

variable {E : Type} {P : E → List E → Prop} {event : E} {log : List E}

/-- Every event of a history meets a condition on it and on what came before. -/
def Throughout (P : E → List E → Prop) (log : List E) : Prop :=
  ∀ later event earlier, log = later ++ event :: earlier → P event earlier

theorem throughout_nil : Throughout P [] := by
  intro later event earlier parts
  simp at parts

theorem Throughout.cons (throughout : Throughout P log) (now : P event log) : Throughout P (event :: log) := by
  intro later other earlier parts
  cases later with
  | nil =>
    obtain ⟨rfl, rfl⟩ := cons.inj parts
    exact now
  | cons head later => exact throughout later other earlier (cons.inj parts).2

theorem Throughout.head (throughout : Throughout P (event :: log)) : P event log := throughout [] event log rfl

theorem Throughout.tail (throughout : Throughout P (event :: log)) : Throughout P log := by
  intro later other earlier parts
  apply throughout (event :: later) other earlier
  rw [parts, cons_append]

/-- What holds from an event on is met by every occurrence of it. -/
theorem split_cons {earlier between : List E} {head : E} (parts : head :: log = between ++ event :: earlier)
    (other : head ≠ event) : ∃ rest, log = rest ++ event :: earlier := by
  cases between with
  | nil => exact absurd (cons.inj parts).1 other
  | cons first rest => exact ⟨rest, (cons.inj parts).2⟩

end Concurrent
