import Mathlib.Data.List.Sort

/-! # Sorting blocks

A stable sort of a list that is put together from blocks does not depend on the order of the blocks, as long as two
items tie only within a block.
-/

namespace List

variable {A B : Type} {le : A → A → Prop} [DecidableRel le] [IsTrans A le] [Std.Total le]

/-- Two items that do not tie may be inserted in either order. -/
theorem orderedInsert_comm {a b : A} (apart : ¬ (le a b ∧ le b a)) (sorted : List A) :
    orderedInsert le a (orderedInsert le b sorted) = orderedInsert le b (orderedInsert le a sorted) := by
  induction sorted with
  | nil =>
    rcases total_of le a b with first | first
    · have second : ¬ le b a := fun second => apart ⟨first, second⟩
      simp [first, second]
    · have second : ¬ le a b := fun second => apart ⟨second, first⟩
      simp [first, second]
  | cons c rest ih =>
    by_cases ac : le a c <;> by_cases bc : le b c
    · rcases total_of le a b with first | first
      · have second : ¬ le b a := fun second => apart ⟨first, second⟩
        simp [ac, bc, first, second]
      · have second : ¬ le a b := fun second => apart ⟨second, first⟩
        simp [ac, bc, first, second]
    · have later : ¬ le b a := fun first => bc (trans_of le first ac)
      simp [ac, bc, later]
    · have later : ¬ le a b := fun first => ac (trans_of le first bc)
      simp [ac, bc, later]
    · simp [ac, bc, ih]

theorem foldr_orderedInsert_comm {a : A} {block : List A} (apart : ∀ b ∈ block, ¬ (le a b ∧ le b a)) (sorted : List A) :
    block.foldr (orderedInsert le) (orderedInsert le a sorted) = orderedInsert le a (block.foldr (orderedInsert le) sorted) := by
  induction block with
  | nil => rfl
  | cons b block ih =>
    rw [foldr_cons, ih fun b member => apart b (.tail _ member), foldr_cons]
    exact (orderedInsert_comm (apart b (.head _)) _).symm

theorem foldr_blocks_comm {first second : List A} (apart : ∀ a ∈ first, ∀ b ∈ second, ¬ (le a b ∧ le b a)) (sorted : List A) :
    second.foldr (orderedInsert le) (first.foldr (orderedInsert le) sorted) =
      first.foldr (orderedInsert le) (second.foldr (orderedInsert le) sorted) := by
  induction first with
  | nil => rfl
  | cons a first ih =>
    rw [foldr_cons, foldr_orderedInsert_comm (apart a (.head _)), ih fun a member => apart a (.tail _ member), foldr_cons]

/-- The order of the blocks does not matter. -/
theorem insertionSort_flatMap_perm {blocks : B → List A} {left right : List B} (same : left.Perm right)
    (apart : ∀ x ∈ left, ∀ y ∈ left, x ≠ y → ∀ a ∈ blocks x, ∀ b ∈ blocks y, ¬ (le a b ∧ le b a)) :
    (left.flatMap blocks).insertionSort le = (right.flatMap blocks).insertionSort le := by
  have byBlock : ∀ list : List B, (list.flatMap blocks).insertionSort le =
      list.foldr (fun x sorted => (blocks x).foldr (orderedInsert le) sorted) [] := by
    intro list
    rw [insertionSort, foldr_flatMap]
  rw [byBlock, byBlock]
  refine same.foldr_eq' (fun x left_ y right_ sorted => ?_) []
  by_cases equal : x = y
  · rw [equal]
  · exact foldr_blocks_comm (apart x left_ y right_ equal) sorted

end List
