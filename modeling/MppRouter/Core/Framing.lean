import MppRouter.Core.TextEncoding

/-! # Length-prefixed frames

A list of byte strings is written by setting the length of each before it, in decimal digits and with a colon. The
lengths are of bytes, so what was written can be cut apart again in one way only.
-/

namespace Framing

open List

/-- The byte of a colon, which ends a length. -/
def colon : UInt8 := 58

/-- The decimal digits of a length, as bytes. -/
def lengthBytes (length : ℕ) : List UInt8 := (Nat.toDigits 10 length).flatMap String.utf8EncodeChar

/-- A byte string after its length. -/
def frame (bytes : List UInt8) : List UInt8 := lengthBytes bytes.length ++ colon :: bytes

/-- Digits are written as bytes of their own, and none of them is a colon. -/
theorem utf8EncodeChar_of_isDigit {c : Char} (digit : c.isDigit = true) :
    String.utf8EncodeChar c = [UInt8.ofNat c.toNat] ∧ UInt8.ofNat c.toNat ≠ colon := by
  simp only [Char.isDigit, Bool.and_eq_true, decide_eq_true_eq] at digit
  obtain ⟨low, high⟩ := digit
  have lower : 48 ≤ c.toNat := low
  have upper : c.toNat ≤ 57 := high
  constructor
  · have ascii : c.val.toNat ≤ 0x7f := by
      change c.toNat ≤ 127
      omega
    rw [String.utf8EncodeChar, if_pos ascii]
    rfl
  · intro same
    have code := congrArg UInt8.toNat same
    rw [UInt8.toNat_ofNat'] at code
    change c.toNat % 256 = 58 at code
    omega

theorem isDigit_of_mem {length : ℕ} {c : Char} (member : c ∈ Nat.toDigits 10 length) : c.isDigit = true :=
  Nat.isDigit_of_mem_toDigits (by decide) (by decide) member

theorem colon_notMem_lengthBytes (length : ℕ) : colon ∉ lengthBytes length := by
  intro member
  obtain ⟨c, digit, byte⟩ := mem_flatMap.mp member
  obtain ⟨single, distinct⟩ := utf8EncodeChar_of_isDigit (isDigit_of_mem digit)
  rw [single] at byte
  exact distinct (mem_singleton.mp byte).symm

theorem lengthBytes_injective : Function.Injective lengthBytes := by
  intro first second same
  have digits : Nat.toDigits 10 first = Nat.toDigits 10 second := TextEncoding.utf8_injective same
  calc first = Nat.ofDigitChars 10 (Nat.toDigits 10 first) 0 := (Nat.ofDigitChars_ten_toDigits).symm
    _ = Nat.ofDigitChars 10 (Nat.toDigits 10 second) 0 := by rw [digits]
    _ = second := Nat.ofDigitChars_ten_toDigits

/-- A length ends at the first colon. -/
theorem takeWhile_lengthBytes (length : ℕ) (rest : List UInt8) :
    (lengthBytes length ++ colon :: rest).takeWhile (· ≠ colon) = lengthBytes length := by
  rw [takeWhile_append_of_pos, takeWhile_cons_of_neg, append_nil]
  · simp
  · intro byte member
    apply decide_eq_true
    rintro rfl
    exact colon_notMem_lengthBytes length member

/-- The first frame of two texts that agree is the same, and so is what follows it. -/
theorem frame_append_inj {first second after afterSecond : List UInt8}
    (same : frame first ++ after = frame second ++ afterSecond) : first = second ∧ after = afterSecond := by
  simp only [frame, append_assoc, cons_append] at same
  have lengths : lengthBytes first.length = lengthBytes second.length := by
    have cut := congrArg (List.takeWhile (· ≠ colon)) same
    rwa [takeWhile_lengthBytes, takeWhile_lengthBytes] at cut
  rw [lengths] at same
  have rest := tail_eq_of_cons_eq (append_cancel_left same)
  exact append_inj rest (lengthBytes_injective lengths)

/-- The frames of two lists of one length are the same only where the lists are. -/
theorem frames_inj {first second : List (List UInt8)} (length : first.length = second.length)
    (same : first.flatMap frame = second.flatMap frame) : first = second := by
  induction first generalizing second with
  | nil => exact (length_eq_zero_iff.mp length.symm).symm
  | cons head rest ih =>
    cases second with
    | nil => cases length
    | cons headSecond restSecond =>
      rw [flatMap_cons, flatMap_cons] at same
      obtain ⟨rfl, tails⟩ := frame_append_inj same
      rw [ih (Nat.succ.inj length) tails]

end Framing
