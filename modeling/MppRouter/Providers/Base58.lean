import MppRouter.Core.Rebase

/-! # Base58

A Solana address is a public key in base58. The decoder is written by hand: it multiplies the bytes it has by 58 and adds
the next digit, least significant byte first, starting from a single zero byte, and in the end adds a zero byte for each
`1` in front. The byte it starts from is one zero too many where nothing but `1`s is read.
-/

namespace MppRouter.Providers

open Rebase List

/-! ## The decoder -/

structure ProviderAuthError where
  message : String
  code : String
  deriving DecidableEq, Repr

def BASE58_ALPHABET : List Char := "123456789ABCDEFGHJKLMNPQRSTUVWXYZabcdefghijkmnopqrstuvwxyz".toList

/-- Multiply the bytes by 58 and add the carry; what is left of the carry is returned too. -/
def carryThrough : List ℕ → ℕ → List ℕ × ℕ
  | [], carry => ([], carry)
  | byte :: bytes, carry =>
    let carry := carry + byte * 58
    let rest := carryThrough bytes (carry / 256)
    (carry % 256 :: rest.1, rest.2)

/-- The bytes that are pushed while the carry is not used up; it shrinks, so that it bounds its own rounds. -/
def pushCarry : ℕ → ℕ → List ℕ
  | 0, _ => []
  | rounds + 1, carry => if 0 < carry then carry % 256 :: pushCarry rounds (carry / 256) else []

def malformed : ProviderAuthError := ⟨"Malformed base58 value.", "bad_address"⟩

/-- One character more. -/
def pushChar (bytes : List ℕ) (char : Char) : Except ProviderAuthError (List ℕ) :=
  match BASE58_ALPHABET.idxOf? char with
  | none => .error malformed
  | some value =>
    let carried := carryThrough bytes value
    .ok (carried.1 ++ pushCarry carried.2 carried.2)

/-- Decode base58. Outside the alphabet, where a character may count twice in the length, the value is malformed anyway. -/
def base58Decode (input : List Char) : Except ProviderAuthError (List UInt8) :=
  if input.length = 0 ∨ 128 < input.length then .error malformed
  else do
    let bytes ← input.foldlM pushChar [0]
    let leading := (input.takeWhile (· = '1')).length
    pure ((bytes ++ replicate leading 0).reverse.map UInt8.ofNat)

/-! ## Base58 -/

/-- A string over the alphabet. -/
def Base58 (text : List Char) : Prop := ∀ c ∈ text, c ∈ BASE58_ALPHABET

variable {text : List Char}

theorem base58_of_all (known : text.all BASE58_ALPHABET.contains = true) : Base58 text :=
  fun c member => contains_iff_mem.mp (all_eq_true.mp known c member)

/-- The digits that the characters stand for. -/
def digitsOf (text : List Char) : List ℕ := text.map BASE58_ALPHABET.idxOf

/-- The characters that stand for digits. -/
def charsOf (digits : List ℕ) : List Char := digits.map fun digit => BASE58_ALPHABET.getD digit '1'

/-- A zero byte for each `1` in front, and the minimal bytes of the number that the digits denote. -/
def standardDecode (text : List Char) : List UInt8 := (rebase 58 256 (digitsOf text)).map UInt8.ofNat

/-- A `1` for each zero byte in front, and the minimal digits of the number that the bytes denote. -/
def standardEncode (bytes : List UInt8) : List Char := charsOf (rebase 256 58 (bytes.map UInt8.toNat))

theorem alphabet_length : BASE58_ALPHABET.length = 58 := by decide

theorem alphabet_nodup : BASE58_ALPHABET.Nodup := by decide

theorem idxOf_lt {c : Char} (known : c ∈ BASE58_ALPHABET) : BASE58_ALPHABET.idxOf c < 58 := by
  rw [← alphabet_length]
  exact idxOf_lt_length_of_mem known

theorem idxOf_eq_zero {c : Char} : BASE58_ALPHABET.idxOf c = 0 ↔ c = '1' := by
  constructor
  · intro zero
    have head : BASE58_ALPHABET = '1' :: BASE58_ALPHABET.tail := by decide
    rw [head, idxOf_cons] at zero
    by_contra other
    have different : ('1' == c) = false := by simpa using Ne.symm other
    rw [different] at zero
    simp at zero
  · rintro rfl
    decide

theorem digitsOf_lt (known : Base58 text) : ∀ digit ∈ digitsOf text, digit < 58 := by
  intro digit member
  obtain ⟨c, inside, rfl⟩ := mem_map.mp member
  exact idxOf_lt (known c inside)

theorem charsOf_lt {digits : List ℕ} (small : ∀ digit ∈ digits, digit < 58) :
    Base58 (charsOf digits) ∧ digitsOf (charsOf digits) = digits := by
  induction digits with
  | nil => exact ⟨fun _ impossible => absurd impossible not_mem_nil, rfl⟩
  | cons digit digits ih =>
    have inside : digit < BASE58_ALPHABET.length := by
      rw [alphabet_length]
      exact small digit mem_cons_self
    have symbol : BASE58_ALPHABET.getD digit '1' = BASE58_ALPHABET[digit] := by simp [getD, inside]
    obtain ⟨known, same⟩ := ih fun digit member => small digit (mem_cons_of_mem _ member)
    constructor
    · intro c member
      rcases mem_cons.mp member with rfl | later
      · show BASE58_ALPHABET.getD digit '1' ∈ _
        rw [symbol]
        exact getElem_mem inside
      · exact known c later
    · show BASE58_ALPHABET.idxOf (BASE58_ALPHABET.getD digit '1') :: digitsOf (charsOf digits) = _
      rw [same, symbol, alphabet_nodup.idxOf_getElem]

/-- Leading `1`s are leading zeros. -/
theorem zeros_digitsOf (text : List Char) : zeros (digitsOf text) = (text.takeWhile (· = '1')).length := by
  rw [zeros, digitsOf, takeWhile_map, length_map]
  congr 2
  funext c
  simp [idxOf_eq_zero]

theorem digitsOf_inj {first second : List Char} (known : Base58 first) (also : Base58 second)
    (same : digitsOf first = digitsOf second) : first = second := by
  induction first generalizing second with
  | nil => exact (map_eq_nil_iff.mp same.symm).symm
  | cons c first ih =>
    cases second with
    | nil => cases same
    | cons d second =>
      obtain ⟨head, tail⟩ := cons.inj same
      have heads : c = d := idxOf_inj (known c mem_cons_self) |>.mp head
      rw [heads, ih (fun c member => known c (mem_cons_of_mem _ member))
        (fun c member => also c (mem_cons_of_mem _ member)) tail]

/-! ## The loop -/

theorem pushCarry_eq {rounds carry : ℕ} (enough : carry ≤ rounds) : pushCarry rounds carry = Nat.digits 256 carry := by
  induction rounds generalizing carry with
  | zero =>
    obtain rfl := Nat.le_zero.mp enough
    rfl
  | succ rounds ih =>
    by_cases positive : 0 < carry
    · have smaller : carry / 256 ≤ rounds := by omega
      rw [pushCarry, if_pos positive, ih smaller, Nat.digits_def' (by decide) positive]
    · obtain rfl : carry = 0 := by omega
      rfl

/-- The inner loop multiplies and adds. -/
theorem carryThrough_digits (value carry : ℕ) :
    (carryThrough (Nat.digits 256 value) carry).1 ++ Nat.digits 256 (carryThrough (Nat.digits 256 value) carry).2 =
      Nat.digits 256 (58 * value + carry) := by
  induction value using Nat.strongRecOn generalizing carry with
  | ind value ih =>
    by_cases positive : 0 < value
    · have high := ih (value / 256) (by omega) ((carry + value % 256 * 58) / 256)
      have total : 58 * value + carry =
          (carry + value % 256 * 58) % 256 + 256 * (58 * (value / 256) + (carry + value % 256 * 58) / 256) := by omega
      rw [Nat.digits_def' (by decide) positive, carryThrough, total, Nat.digits_add 256 (by decide) _ _ (by omega) (by omega)]
      exact congrArg _ high
    · obtain rfl : value = 0 := by omega
      simp [carryThrough]

/-- The bytes of the loop for a number, least significant first: one byte for zero. -/
def little (value : ℕ) : List ℕ := if value = 0 then [0] else Nat.digits 256 value

theorem little_lt (value : ℕ) : ∀ byte ∈ little value, byte < 256 := by
  intro byte member
  unfold little at member
  split at member
  · obtain rfl := mem_singleton.mp member
    decide
  · exact Nat.digits_lt_base (by decide) member

theorem number_little (value : ℕ) : number 256 (little value).reverse = value := by
  rw [number, reverse_reverse]
  unfold little
  split
  next zero => simp [zero]
  next => exact Nat.ofDigits_digits 256 value

theorem pushChar_little {c : Char} (known : c ∈ BASE58_ALPHABET) (value : ℕ) :
    pushChar (little value) c = .ok (little (58 * value + BASE58_ALPHABET.idxOf c)) := by
  have below := idxOf_lt known
  have index : BASE58_ALPHABET.idxOf? c = some (BASE58_ALPHABET.idxOf c) := by
    cases found : BASE58_ALPHABET.idxOf? c with
    | none => exact absurd known (idxOf?_eq_none_iff.mp found)
    | some position => rw [idxOf_eq_getD_idxOf?, found, Option.getD_some]
  rw [pushChar, index]
  dsimp only
  generalize BASE58_ALPHABET.idxOf c = digit at below
  rw [pushCarry_eq le_rfl]
  by_cases zero : value = 0
  · subst zero
    -- The single byte it starts with takes the first digits, and stays while they are zero.
    have quotient : digit / 256 = 0 := by omega
    have remainder : digit % 256 = digit := by omega
    simp only [little, carryThrough, if_true, Nat.zero_mul, Nat.add_zero, Nat.mul_zero, Nat.zero_add, quotient, remainder,
      Nat.digits_zero, append_nil]
    split
    next none => rw [none]
    next some => rw [Nat.digits_of_lt 256 digit some (by omega)]
  · have more : 58 * value + digit ≠ 0 := by omega
    rw [little, if_neg zero, little, if_neg more, carryThrough_digits]

theorem foldlM_pushChar (known : Base58 text) :
    text.foldlM pushChar [0] = .ok (little (number 58 (digitsOf text))) := by
  induction text using reverseRecOn with
  | nil => rfl
  | append_singleton text c ih =>
    have before : Base58 text := fun c member => known c (mem_append_left _ member)
    have digits : digitsOf (text ++ [c]) = digitsOf text ++ [BASE58_ALPHABET.idxOf c] := by simp [digitsOf]
    rw [foldlM_append, ih before, digits, number_append]
    show pushChar _ c >>= pure = _
    rw [pushChar_little (known c (by simp))]
    rfl

/-- What the decoder makes of a string over the alphabet. -/
theorem base58Decode_eq (known : Base58 text) (nonempty : 1 ≤ text.length) (short : text.length ≤ 128) :
    base58Decode text = .ok ((replicate (zeros (digitsOf text)) 0 ++
      (little (number 58 (digitsOf text))).reverse).map UInt8.ofNat) := by
  have accepted : ¬ (text.length = 0 ∨ 128 < text.length) := by omega
  rw [base58Decode, if_neg accepted, foldlM_pushChar known, zeros_digitsOf]
  show Except.ok _ = Except.ok _
  rw [reverse_append, reverse_replicate]

/-! ## Exactly base58 -/

theorem number_digitsOf_ne_zero (known : Base58 text) : number 58 (digitsOf text) ≠ 0 ↔ ∃ c ∈ text, c ≠ '1' := by
  rw [ne_eq, number_eq_zero (by decide) (digitsOf_lt known)]
  simp [digitsOf, idxOf_eq_zero]

theorem number_toNat_ne_zero (bytes : List UInt8) :
    number 256 (bytes.map UInt8.toNat) ≠ 0 ↔ ∃ byte ∈ bytes, byte ≠ 0 := by
  have small : ∀ digit ∈ bytes.map UInt8.toNat, digit < 256 := by
    intro digit member
    obtain ⟨byte, _, rfl⟩ := mem_map.mp member
    exact byte.toNat_lt
  rw [ne_eq, number_eq_zero (by decide) small]
  simp [← UInt8.toNat_inj]

/-- Bytes from small numbers are the numbers. -/
theorem map_toNat_ofNat {digits : List ℕ} (small : ∀ digit ∈ digits, digit < 256) :
    (digits.map UInt8.ofNat).map UInt8.toNat = digits := by
  rw [map_map]
  conv_rhs => rw [← map_id digits]
  apply map_congr_left
  intro digit member
  exact UInt8.toNat_ofNat_of_lt' (small digit member)

theorem map_ofNat_inj {first second : List ℕ} (small : ∀ digit ∈ first, digit < 256) (also : ∀ digit ∈ second, digit < 256)
    (same : first.map UInt8.ofNat = second.map UInt8.ofNat) : first = second := by
  rw [← map_toNat_ofNat small, same, map_toNat_ofNat also]

theorem zeros_append_lt (count : ℕ) {digits : List ℕ} (small : ∀ digit ∈ digits, digit < 256) :
    ∀ digit ∈ replicate count 0 ++ digits, digit < 256 := by
  intro digit member
  rcases mem_append.mp member with zero | other
  · rw [(mem_replicate.mp zero).2]
    decide
  · exact small digit other

theorem decode_standard (known : Base58 text) (nonempty : 1 ≤ text.length) (short : text.length ≤ 128) :
    base58Decode text = .ok (standardDecode text) ↔ number 58 (digitsOf text) ≠ 0 := by
  rw [base58Decode_eq known nonempty short, standardDecode, rebase, Except.ok.injEq]
  constructor
  · intro same zero
    have lengths := congrArg length same
    simp [zero, little, minimal] at lengths
  · intro positive
    rw [little, if_neg positive, minimal]

theorem standardEncode_known (bytes : List UInt8) : Base58 (standardEncode bytes) ∧
    digitsOf (standardEncode bytes) = rebase 256 58 (bytes.map UInt8.toNat) :=
  charsOf_lt (rebase_lt (by decide) _)

/-- Decoding is the inverse of encoding, in base58 itself. -/
theorem standardDecode_standardEncode (bytes : List UInt8) : standardDecode (standardEncode bytes) = bytes := by
  rw [standardDecode, (standardEncode_known bytes).2, rebase_rebase (by decide), map_map]
  · conv_rhs => rw [← map_id bytes]
    apply map_congr_left
    intro byte _
    exact UInt8.ofNat_toNat
  · intro digit member
    obtain ⟨byte, _, rfl⟩ := mem_map.mp member
    exact byte.toNat_lt

theorem number_standardEncode (bytes : List UInt8) :
    number 58 (digitsOf (standardEncode bytes)) = number 256 (bytes.map UInt8.toNat) := by
  rw [(standardEncode_known bytes).2, rebase, number_replicate_append, number_minimal]

/-- Different strings are decoded to different bytes, also the ones that are decoded wrongly. -/
theorem decode_inj {first second : List Char} (known : Base58 first) (also : Base58 second) (nonempty : 1 ≤ first.length)
    (short : first.length ≤ 128) (alsoNonempty : 1 ≤ second.length) (alsoShort : second.length ≤ 128)
    (same : base58Decode first = base58Decode second) : first = second := by
  rw [base58Decode_eq known nonempty short, base58Decode_eq also alsoNonempty alsoShort, Except.ok.injEq] at same
  have small (text : List Char) : ∀ byte ∈ (little (number 58 (digitsOf text))).reverse, byte < 256 :=
    fun byte member => little_lt _ byte (mem_reverse.mp member)
  have bytes := map_ofNat_inj (zeros_append_lt _ (small first)) (zeros_append_lt _ (small second)) same
  have numbers : number 58 (digitsOf first) = number 58 (digitsOf second) := by
    have both := congrArg (number 256) bytes
    rwa [number_replicate_append, number_replicate_append, number_little, number_little] at both
  have counts : zeros (digitsOf first) = zeros (digitsOf second) := by
    have lengths := congrArg length bytes
    rw [numbers, length_append, length_append, length_replicate, length_replicate] at lengths
    omega
  apply digitsOf_inj known also
  rw [← zeros_append_minimal (by decide) (digitsOf_lt known), counts, numbers,
    zeros_append_minimal (by decide) (digitsOf_lt also)]

/-- The decoder is base58 on the strings with another character than `1`, and the inverse of encoding on the byte strings
with another byte than zero; no two strings are decoded to the same bytes. -/
theorem base58_unless_zero (text other : List Char) (bytes : List UInt8) :
    (Base58 text → 1 ≤ text.length → text.length ≤ 128 →
      (base58Decode text = .ok (standardDecode text) ↔ ∃ c ∈ text, c ≠ '1')) ∧
    (1 ≤ (standardEncode bytes).length → (standardEncode bytes).length ≤ 128 →
      (base58Decode (standardEncode bytes) = .ok bytes ↔ ∃ byte ∈ bytes, byte ≠ 0)) ∧
    (Base58 text → Base58 other → 1 ≤ text.length → text.length ≤ 128 → 1 ≤ other.length → other.length ≤ 128 →
      base58Decode text = base58Decode other → text = other) := by
  refine ⟨?_, ?_, ?_⟩
  · intro known nonempty short
    rw [decode_standard known nonempty short, number_digitsOf_ne_zero known]
  · intro nonempty short
    have known := (standardEncode_known bytes).1
    have exactly := decode_standard known nonempty short
    rw [standardDecode_standardEncode, number_standardEncode, number_toNat_ne_zero] at exactly
    exact exactly
  · intro known also nonempty short alsoNonempty alsoShort same
    exact decode_inj known also nonempty short alsoNonempty alsoShort same

/-- Zeros in front, as most keys that have any. -/
theorem base58_unless_zero_padded : base58Decode ['1', '1', 'z'] = .ok (standardDecode ['1', '1', 'z']) :=
  ((base58_unless_zero ['1', '1', 'z'] [] []).1 (base58_of_all (by decide)) (by decide) (by decide)).mpr ⟨'z', by decide, by decide⟩

/-- The address of Solana's system program is read as 33 bytes. -/
theorem system_program_misread : Base58 (replicate 32 '1') ∧
    base58Decode (replicate 32 '1') = .ok (replicate 33 0) ∧
    base58Decode (replicate 32 '1') ≠ .ok (standardDecode (replicate 32 '1')) := by
  refine ⟨base58_of_all (by decide), by decide +kernel, by decide +kernel⟩

end MppRouter.Providers
