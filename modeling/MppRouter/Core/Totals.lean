import Mathlib.Data.List.AList
import Mathlib.Algebra.Order.BigOperators.Group.List
import Mathlib.Tactic.Abel

/-! # Totals over a finite key-value store

A store of rows under keys carries many counters that are sums over its rows. Every write replaces
at most one row, so a counter moves by exactly the difference of two row weights: `total_insert` is
the only fact an incremental counter has to be checked against.
-/

namespace AList

open List

variable {α : Type*} {β : α → Type*} {M : Type*} [AddCommGroup M]

/-- The sum of a row weight over every stored row. -/
def total (weigh : (key : α) → β key → M) (store : AList β) : M :=
  (store.entries.map fun row => weigh row.1 row.2).sum

variable [DecidableEq α]

/-- What one key contributes to a total: nothing when it holds no row. -/
def weightAt (weigh : (key : α) → β key → M) (store : AList β) (key : α) : M :=
  (store.lookup key).elim 0 (weigh key)

variable {weigh : (key : α) → β key → M}

theorem weightAt_of_lookup {store : AList β} {key : α} {row : β key}
    (found : store.lookup key = some row) : weightAt weigh store key = weigh key row := by
  simp [weightAt, found]

theorem weightAt_of_absent {store : AList β} {key : α} (absent : store.lookup key = none) :
    weightAt weigh store key = 0 := by
  simp [weightAt, absent]

private theorem sum_kerase (weigh : (key : α) → β key → M) (key : α) (rows : List (Sigma β)) :
    ((List.kerase key rows).map fun row => weigh row.1 row.2).sum +
      (List.dlookup key rows).elim 0 (weigh key) = (rows.map fun row => weigh row.1 row.2).sum := by
  induction rows with
  | nil => simp
  | cons row rest ih =>
    obtain ⟨rowKey, value⟩ := row
    by_cases same : key = rowKey
    · subst same
      simp [kerase_cons_eq, add_comm]
    · rw [kerase_cons_ne same, dlookup_cons_ne _ _ same]
      simp only [map_cons, sum_cons, add_assoc, ih]

/-- A write moves a total by the new row's weight less the weight of the row it replaces. -/
theorem total_insert (store : AList β) (key : α) (row : β key) :
    total weigh (store.insert key row) = total weigh store - weightAt weigh store key + weigh key row := by
  have erased := sum_kerase weigh key store.entries
  simp only [total, weightAt, AList.lookup, AList.entries_insert, map_cons, sum_cons]
  rw [← erased]
  abel

/-- A write that keeps the row's weight keeps the total. -/
theorem total_insert_of_eq {store : AList β} {key : α} {row : β key}
    (same : weigh key row = weightAt weigh store key) :
    total weigh (store.insert key row) = total weigh store := by
  rw [total_insert, same, sub_add_cancel]

section Ordered

variable [PartialOrder M] [IsOrderedAddMonoid M]

/-- Totals compare when the weights of all rows do. -/
theorem total_le_total {store : AList β} {lower upper : (key : α) → β key → M}
    (le : ∀ key row, store.lookup key = some row → lower key row ≤ upper key row) :
    total lower store ≤ total upper store := by
  refine sum_le_sum fun row member => le row.1 row.2 ?_
  exact AList.mem_lookup_iff.mpr member

theorem total_nonneg {store : AList β} (nonneg : ∀ key row, store.lookup key = some row → 0 ≤ weigh key row) :
    0 ≤ total weigh store := by
  have zero : total (fun _ _ => 0) store = (0 : M) := by simp [total]
  calc (0 : M) = total (fun _ _ => 0) store := zero.symm
    _ ≤ total weigh store := total_le_total nonneg

end Ordered

end AList
