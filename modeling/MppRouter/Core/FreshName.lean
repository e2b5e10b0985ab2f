import Mathlib.Data.List.Pairwise
import Mathlib.Data.List.Nodup
import Mathlib.Data.List.Perm.Subperm

/-! # Names that are not taken

A name is made fresh by counting through its candidates until one is free. Lists of items with distinct names stay
distinct under a renaming of some items exactly when the names given neither meet each other nor a name that is kept.
-/

namespace FreshName

open List

section Search
variable {α : Type*} [DecidableEq α] (taken : List α) (candidate : ℕ → α)

/-- The first index from `start` on whose candidate is free, after at most as many steps as given. -/
def search : ℕ → ℕ → ℕ
  | 0, start => start
  | steps + 1, start => if candidate start ∈ taken then search steps (start + 1) else start

/-- Count from `start` on until a candidate is free; every taken name is met once at most. -/
def firstFree (start : ℕ) : ℕ := search taken candidate taken.length start

variable {taken candidate}

theorem search_free {steps start : ℕ} (free : ∃ later ≤ steps, candidate (start + later) ∉ taken) :
    candidate (search taken candidate steps start) ∉ taken := by
  induction steps generalizing start with
  | zero =>
    obtain ⟨later, bound, free⟩ := free
    rwa [Nat.le_zero.mp bound] at free
  | succ steps ih =>
    rw [search]
    split
    · next met =>
      apply ih
      obtain ⟨_ | later, bound, free⟩ := free
      · exact absurd met free
      · exact ⟨later, by omega, by rwa [Nat.add_assoc, Nat.add_comm 1]⟩
    · assumption

/-- More distinct candidates than taken names: one of them is free. -/
theorem exists_free (distinct : Function.Injective candidate) (start : ℕ) :
    ∃ later ≤ taken.length, candidate (start + later) ∉ taken := by
  by_contra none
  push Not at none
  have nodup : ((List.range (taken.length + 1)).map fun later => candidate (start + later)).Nodup := by
    apply nodup_range.map
    intro first second same
    exact Nat.add_left_cancel (distinct same)
  have fits := (nodup.subperm (by
    intro name member
    obtain ⟨later, inRange, rfl⟩ := mem_map.mp member
    exact none later (Nat.lt_succ_iff.mp (mem_range.mp inRange)) : _ ⊆ taken)).length_le
  rw [length_map, length_range] at fits
  omega

theorem firstFree_free (distinct : Function.Injective candidate) (start : ℕ) :
    candidate (firstFree taken candidate start) ∉ taken :=
  search_free (exists_free distinct start)

end Search

section Lists
variable {ι κ : Type*} {name : ι → κ} {items : List ι}

/-- An item of a list with distinct names is the one found under its name. -/
theorem find_named [DecidableEq κ] (distinct : items.Pairwise fun first second => name first ≠ name second)
    {item : ι} (member : item ∈ items) : items.find? (fun other => name other = name item) = some item := by
  induction distinct with
  | nil => cases member
  | @cons head rest apart _ ih =>
    rw [find?_cons]
    rcases mem_cons.mp member with rfl | member
    · simp
    · simpa [apart item member] using ih member

/-- Where names are given to some items of a list with distinct names, the new names are distinct exactly when the given
ones neither meet each other nor a name that is kept. -/
theorem renamed_distinct_iff (distinct : items.Pairwise fun first second => name first ≠ name second)
    (given : ι → Option κ) :
    (items.Pairwise fun first second => (given first).getD (name first) ≠ (given second).getD (name second)) ↔
      (items.Pairwise fun first second => ∀ x ∈ given first, ∀ y ∈ given second, x ≠ y) ∧
        ∀ renamed ∈ items, ∀ kept ∈ items, given kept = none → ∀ x ∈ given renamed, x ≠ name kept := by
  constructor
  · intro apart
    constructor
    · apply apart.imp
      intro first second differ x ofFirst y ofSecond
      rwa [Option.mem_def.mp ofFirst, Option.mem_def.mp ofSecond] at differ
    · intro renamed inItems kept alsoIn ungiven x ofRenamed
      have other : renamed ≠ kept := by
        rintro rfl
        rw [ungiven] at ofRenamed
        cases ofRenamed
      have : Std.Symm fun first second => (given first).getD (name first) ≠ (given second).getD (name second) :=
        ⟨fun _ _ differ => differ.symm⟩
      have differ := apart.forall inItems alsoIn other
      rwa [Option.mem_def.mp ofRenamed, ungiven] at differ
  · rintro ⟨givenApart, keptApart⟩
    apply (distinct.and givenApart).imp_of_mem
    intro first second inItems alsoIn ⟨named, apart⟩
    cases ofFirst : given first <;> cases ofSecond : given second
    · exact named
    · exact (keptApart second alsoIn first inItems ofFirst _ ofSecond).symm
    · exact keptApart first inItems second alsoIn ofSecond _ ofFirst
    · exact apart _ ofFirst _ ofSecond

end Lists

end FreshName
