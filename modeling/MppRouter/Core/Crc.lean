import Mathlib

/-! # Cyclic redundancy checks

The bits of a number are the coefficients of a polynomial over two elements. A register that is shifted, and takes
its overflow back with the generator, is left with the remainder of the message.
-/

namespace Crc

open Polynomial

/-! ## Bits as coefficients -/

noncomputable def ofBits (n : ℕ) : (ZMod 2)[X] := ∑ i ∈ Finset.range n, if n.testBit i then X ^ i else 0

theorem coeff_ofBits (n i : ℕ) : (ofBits n).coeff i = if n.testBit i then 1 else 0 := by
  have term (j : ℕ) : (if n.testBit j then X ^ j else 0 : (ZMod 2)[X]).coeff i =
      if i = j then (if n.testBit i then 1 else 0) else 0 := by
    by_cases same : i = j
    · subst same
      cases n.testBit i <;> simp
    · cases n.testBit j <;> simp [coeff_X_pow, same]
  rw [ofBits, finsetSum_coeff]
  simp only [term, Finset.sum_ite_eq, Finset.mem_range]
  split_ifs with inside set_
  · rfl
  · rfl
  · exact absurd (Nat.lt_of_lt_of_le Nat.lt_two_pow_self (Nat.ge_two_pow_of_testBit ‹_›)) inside
  · rfl

theorem ofBits_xor (a b : ℕ) : ofBits (a ^^^ b) = ofBits a + ofBits b := by
  ext i
  rw [coeff_add]
  simp only [coeff_ofBits, Nat.testBit_xor]
  cases a.testBit i <;> cases b.testBit i <;> decide

theorem ofBits_shiftLeft (n k : ℕ) : ofBits (n <<< k) = ofBits n * X ^ k := by
  ext i
  rw [coeff_mul_X_pow', coeff_ofBits, coeff_ofBits, Nat.testBit_shiftLeft]
  by_cases reached : k ≤ i <;> simp [reached]

theorem ofBits_two_pow (k : ℕ) : ofBits (2 ^ k) = X ^ k := by
  ext i
  rw [coeff_ofBits, coeff_X_pow, Nat.testBit_two_pow]
  simp only [decide_eq_true_eq, @eq_comm _ k]

theorem degree_ofBits {n width : ℕ} (small : n < 2 ^ width) : (ofBits n).degree < width := by
  rw [degree_lt_iff_coeff_zero]
  intro i high
  rw [coeff_ofBits, Nat.testBit_lt_two_pow (Nat.lt_of_lt_of_le small (Nat.pow_le_pow_right Nat.two_pos high))]
  rfl

/-! ## The register -/

/-- The generator, by the bits below its leading power. -/
noncomputable def generator (width low : ℕ) : (ZMod 2)[X] := X ^ width + ofBits low

/-- The register moves up by one bit. -/
def shift (width low register : ℕ) : ℕ :=
  if register &&& 2 ^ (width - 1) ≠ 0 then ((register <<< 1) ^^^ low) &&& (2 ^ width - 1)
  else (register <<< 1) &&& (2 ^ width - 1)

/-- A byte enters at the top, and moves up by its bits. -/
def feed (width low register : ℕ) (byte : UInt8) : ℕ :=
  (shift width low)^[8] (register ^^^ (byte.toNat <<< (width - 8)))

/-- The bits of the bytes, the first one highest. -/
noncomputable def message (bytes : List UInt8) : (ZMod 2)[X] :=
  bytes.foldl (fun read byte => read * X ^ 8 + ofBits byte.toNat) 0

section Register

variable {width low register : ℕ}

theorem and_two_pow_ne_zero (n k : ℕ) : n &&& 2 ^ k ≠ 0 ↔ n.testBit k = true := by
  rw [Nat.and_two_pow]
  cases n.testBit k <;> simp

/-- What is masked off is the bit above the register. -/
theorem ofBits_masked {n : ℕ} (small : n < 2 ^ (width + 1)) :
    ofBits (n &&& (2 ^ width - 1)) = ofBits n + if n.testBit width then X ^ width else 0 := by
  ext i
  have carry : (if n.testBit width then X ^ width else 0 : (ZMod 2)[X]).coeff i =
      if n.testBit width ∧ i = width then 1 else 0 := by
    cases n.testBit width <;> simp [coeff_X_pow]
  rw [coeff_add, carry, coeff_ofBits, coeff_ofBits, Nat.testBit_and, Nat.testBit_two_pow_sub_one]
  rcases Nat.lt_trichotomy i width with below | rfl | above
  · simp [below, below.ne]
  · cases n.testBit i <;> simp [CharTwo.add_self_eq_zero (1 : ZMod 2)]
  · have none_ := Nat.testBit_lt_two_pow (Nat.lt_of_lt_of_le small (Nat.pow_le_pow_right Nat.two_pos above))
    simp [none_, above.ne']

/-- The top bit of the register tells whether the generator is taken off. -/
theorem ofBits_shift (inside : register < 2 ^ width) (small : low < 2 ^ width) (wide : 0 < width) :
    ofBits (shift width low register) = ofBits register * X +
      if register.testBit (width - 1) then generator width low else 0 := by
  have moved : register <<< 1 < 2 ^ (width + 1) := by
    rw [Nat.shiftLeft_eq, Nat.pow_succ]
    omega
  have top : (register <<< 1).testBit width = register.testBit (width - 1) := by
    rw [Nat.testBit_shiftLeft, decide_eq_true (show width ≥ 1 from wide), Bool.true_and]
  have doubled : ofBits (register <<< 1) = ofBits register * X := by rw [ofBits_shiftLeft, pow_one]
  unfold shift
  simp only [and_two_pow_ne_zero]
  split_ifs with set_
  · have taken : (register <<< 1) ^^^ low < 2 ^ (width + 1) :=
      Nat.xor_lt_two_pow moved (Nat.lt_of_lt_of_le small (Nat.pow_le_pow_right Nat.two_pos (Nat.le_succ _)))
    rw [ofBits_masked taken, Nat.testBit_xor, top, set_, Nat.testBit_lt_two_pow small, ofBits_xor, doubled, generator]
    simp only [Bool.xor_false, if_true]
    ring
  · rw [ofBits_masked moved, top, if_neg set_, doubled]

/-- The register is inside its width, and modulo the generator it is the polynomial. -/
structure Stands (width low register : ℕ) (p : (ZMod 2)[X]) : Prop where
  inside : register < 2 ^ width
  residue : AdjoinRoot.mk (generator width low) (ofBits register) = AdjoinRoot.mk (generator width low) p

variable {p : (ZMod 2)[X]}

section Small

variable (stands : Stands width low register p) (small : low < 2 ^ width)

include stands small

theorem Stands.shift (wide : 0 < width) : Stands width low (shift width low register) (p * X) := by
  constructor
  · have positive := Nat.two_pow_pos width
    unfold Crc.shift
    split_ifs <;> exact Nat.and_lt_two_pow _ (by omega)
  · rw [ofBits_shift stands.inside small wide, map_add, map_mul, stands.residue, ← map_mul]
    split_ifs
    · rw [AdjoinRoot.mk_self, add_zero]
    · rw [map_zero, add_zero]

theorem Stands.shifts (wide : 0 < width) (count : ℕ) :
    Stands width low ((Crc.shift width low)^[count] register) (p * X ^ count) := by
  induction count with
  | zero => simpa using stands
  | succ count ih =>
    rw [Function.iterate_succ_apply', pow_succ, ← mul_assoc]
    exact ih.shift small wide

theorem Stands.feed (wide : 8 ≤ width) (byte : UInt8) :
    Stands width low (feed width low register byte) (p * X ^ 8 + ofBits byte.toNat * X ^ width) := by
  have entering : byte.toNat <<< (width - 8) < 2 ^ width := by
    calc
      byte.toNat <<< (width - 8) = byte.toNat * 2 ^ (width - 8) := Nat.shiftLeft_eq _ _
      _ < 2 ^ 8 * 2 ^ (width - 8) := Nat.mul_lt_mul_of_pos_right byte.toNat_lt (Nat.two_pow_pos _)
      _ = 2 ^ width := by rw [← Nat.pow_add, Nat.add_sub_cancel' wide]
  have entered : Stands width low (register ^^^ (byte.toNat <<< (width - 8)))
      (p + ofBits byte.toNat * X ^ (width - 8)) := by
    refine ⟨Nat.xor_lt_two_pow stands.inside entering, ?_⟩
    rw [ofBits_xor, ofBits_shiftLeft, map_add, stands.residue, ← map_add]
  have moved := entered.shifts small (by omega) 8
  rwa [add_mul, mul_assoc, ← pow_add, Nat.sub_add_cancel wide] at moved

end Small

/-- The register stands for what was read, times the power of its width. -/
theorem Stands.foldl (stands : Stands width low register (p * X ^ width)) (small : low < 2 ^ width) (wide : 8 ≤ width)
    (bytes : List UInt8) : Stands width low (bytes.foldl (Crc.feed width low) register)
      (bytes.foldl (fun read byte => read * X ^ 8 + ofBits byte.toNat) p * X ^ width) := by
  induction bytes generalizing register p with
  | nil => exact stands
  | cons byte bytes ih =>
    apply ih
    have fed := stands.feed small wide byte
    rwa [mul_right_comm, ← add_mul] at fed

/-- An empty register is left with the remainder of the message, times the power of the width. -/
theorem checksum_eq (small : low < 2 ^ width) (wide : 8 ≤ width) (bytes : List UInt8) :
    bytes.foldl (feed width low) 0 < 2 ^ width ∧
      ofBits (bytes.foldl (feed width low) 0) = (message bytes * X ^ width) %ₘ generator width low := by
  have empty : Stands width low 0 (0 * X ^ width) := ⟨Nat.two_pow_pos width, by rw [zero_mul]; rfl⟩
  obtain ⟨inside, residue⟩ := empty.foldl small wide bytes
  have monic : (generator width low).Monic := monic_X_pow_add (degree_ofBits small)
  have short : (ofBits (bytes.foldl (feed width low) 0)).degree < (generator width low).degree := by
    rw [generator, degree_add_eq_left_of_degree_lt] <;> rw [degree_X_pow]
    · exact degree_ofBits inside
    · exact degree_ofBits small
  refine ⟨inside, ?_⟩
  calc
    ofBits (bytes.foldl (feed width low) 0) = ofBits (bytes.foldl (feed width low) 0) %ₘ generator width low :=
      ((modByMonic_eq_self_iff monic).mpr short).symm
    _ = (message bytes * X ^ width) %ₘ generator width low :=
      modByMonic_eq_of_dvd_sub monic (AdjoinRoot.mk_eq_mk.mp residue)

end Register

end Crc
