import Mathlib.Data.Nat.Digits.Lemmas

/-! # Digit strings in two bases

A digit string, its most significant digit first, denotes a number and has some zeros in front. Written in another base
with as many zeros in front it can be read back. Encodings of byte strings as text, base58 for one, are built this way.
-/

namespace Rebase

open List

/-- The number that digits denote. -/
def number (base : ℕ) (digits : List ℕ) : ℕ := Nat.ofDigits base digits.reverse

/-- The digits of a number without zeros in front; none for zero. -/
def minimal (base value : ℕ) : List ℕ := (Nat.digits base value).reverse

/-- The zeros in front. -/
def zeros (digits : List ℕ) : ℕ := (digits.takeWhile (· = 0)).length

/-- The same number in another base, after the same number of zeros. -/
def rebase (source target : ℕ) (digits : List ℕ) : List ℕ :=
  replicate (zeros digits) 0 ++ minimal target (number source digits)

/-! ## Leading zeros -/

theorem number_cons (base digit : ℕ) (digits : List ℕ) :
    number base (digit :: digits) = digit * base ^ digits.length + number base digits := by
  rw [number, reverse_cons, Nat.ofDigits_append, Nat.ofDigits_singleton, length_reverse, number, Nat.add_comm, Nat.mul_comm]

theorem number_cons_zero (base : ℕ) (digits : List ℕ) : number base (0 :: digits) = number base digits := by
  simp [number, Nat.ofDigits_append]

theorem number_append (base : ℕ) (digits : List ℕ) (digit : ℕ) :
    number base (digits ++ [digit]) = base * number base digits + digit := by
  rw [number, reverse_append, reverse_singleton, singleton_append, Nat.ofDigits_cons, Nat.add_comm]
  rfl

theorem minimal_head_ne_zero {base value digit : ℕ} {rest : List ℕ} (same : minimal base value = digit :: rest) :
    digit ≠ 0 := by
  have digits : Nat.digits base value = rest.reverse ++ [digit] := by
    rw [← reverse_reverse (Nat.digits base value), ← minimal, same, reverse_cons]
  have nonempty : Nat.digits base value ≠ [] := by simp [digits]
  have positive : value ≠ 0 := Nat.digits_ne_nil_iff_ne_zero.mp nonempty
  have last := Nat.getLast_digit_ne_zero base positive
  simpa [digits] using last

theorem zeros_replicate_append {count base value : ℕ} :
    zeros (replicate count 0 ++ minimal base value) = count := by
  induction count with
  | zero =>
    cases same : minimal base value with
    | nil => rfl
    | cons digit rest => simp [zeros, minimal_head_ne_zero same]
  | succ count ih =>
    rw [replicate_succ, cons_append]
    simpa [zeros] using ih

theorem number_replicate_append (count base : ℕ) (digits : List ℕ) :
    number base (replicate count 0 ++ digits) = number base digits := by
  induction count with
  | zero => rfl
  | succ count ih => rw [replicate_succ, cons_append, number_cons_zero, ih]

theorem number_minimal (base value : ℕ) : number base (minimal base value) = value := by
  rw [number, minimal, reverse_reverse, Nat.ofDigits_digits]

/-- A digit string is its zeros and the minimal digits of its number. -/
theorem zeros_append_minimal {base : ℕ} (large : 1 < base) {digits : List ℕ} (small : ∀ digit ∈ digits, digit < base) :
    replicate (zeros digits) 0 ++ minimal base (number base digits) = digits := by
  induction digits with
  | nil => simp [zeros, number, minimal]
  | cons first rest ih =>
    by_cases zero : first = 0
    · subst zero
      have counted : zeros (0 :: rest) = zeros rest + 1 := by simp [zeros]
      have below : ∀ digit ∈ rest, digit < base := fun digit member => small digit (mem_cons_of_mem _ member)
      rw [counted, replicate_succ, cons_append, number_cons_zero, ih below]
    · have none : zeros (first :: rest) = 0 := by simp [zeros, zero]
      have digits : Nat.digits base (Nat.ofDigits base (first :: rest).reverse) = (first :: rest).reverse := by
        apply Nat.digits_ofDigits base large
        · exact fun digit member => small digit (mem_reverse.mp member)
        · simpa using zero
      rw [none, replicate_zero, nil_append, minimal, number, digits, reverse_reverse]

/-! ## There and back -/

/-- Reading back what was written in another base. -/
theorem rebase_rebase {source target : ℕ} (large : 1 < source) {digits : List ℕ} (small : ∀ digit ∈ digits, digit < source) :
    rebase target source (rebase source target digits) = digits := by
  rw [rebase, rebase, zeros_replicate_append, number_replicate_append, number_minimal]
  exact zeros_append_minimal large small

theorem rebase_lt {source target : ℕ} (large : 1 < target) (digits : List ℕ) :
    ∀ digit ∈ rebase source target digits, digit < target := by
  intro digit member
  rcases mem_append.mp member with zero | written
  · rw [(mem_replicate.mp zero).2]
    exact Nat.zero_lt_of_lt large
  · exact Nat.digits_lt_base large (mem_reverse.mp written)

/-- Only zeros denote zero. -/
theorem number_eq_zero {base : ℕ} (large : 1 < base) {digits : List ℕ} (small : ∀ digit ∈ digits, digit < base) :
    number base digits = 0 ↔ ∀ digit ∈ digits, digit = 0 := by
  constructor
  · intro zero digit member
    have whole := zeros_append_minimal large small
    rw [zero, minimal, Nat.digits_zero, reverse_nil, append_nil] at whole
    rw [← whole] at member
    exact (mem_replicate.mp member).2
  · intro zero
    rw [eq_replicate_of_mem zero, ← append_nil (replicate _ _), number_replicate_append]
    rfl

end Rebase
