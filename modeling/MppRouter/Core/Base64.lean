import Mathlib.Data.List.DropRight
import Mathlib.Tactic.IntervalCases

/-! # Base64

Bytes as characters, six bits at a time, with padding or in the spelling for addresses without it, and the decoder of a
script, which forgives white space and missing padding.
-/

namespace Base64

open List

/-! ## Digits -/

def ALPHABET : List Char := "ABCDEFGHIJKLMNOPQRSTUVWXYZabcdefghijklmnopqrstuvwxyz0123456789+/".toList

def charOf (digit : ℕ) : Char := ALPHABET.getD digit 'A'

def digitOf (c : Char) : Option ℕ := if ALPHABET.contains c then some (ALPHABET.idxOf c) else none

/-- Three bytes as four digits. -/
def digitsOf : List ℕ → List ℕ
  | a :: b :: c :: rest => a / 4 :: (a % 4 * 16 + b / 16) :: (b % 16 * 4 + c / 64) :: c % 64 :: digitsOf rest
  | [a, b] => [a / 4, a % 4 * 16 + b / 16, b % 16 * 4]
  | [a] => [a / 4, a % 4 * 16]
  | [] => []

/-- Four digits as three bytes; the bits that are left at the end are dropped. -/
def bytesOf : List ℕ → List ℕ
  | a :: b :: c :: d :: rest => (a * 4 + b / 16) :: (b % 16 * 16 + c / 4) :: (c % 4 * 64 + d) :: bytesOf rest
  | [a, b, c] => [a * 4 + b / 16, b % 16 * 16 + c / 4]
  | [a, b] => [a * 4 + b / 16]
  | _ => []

/-! ## The functions of a script -/

def isAsciiWhitespace (c : Char) : Bool := c == ' ' || c == '\t' || c == '\n' || c == '\r' || c.toNat == 0x0C

/-- At most two characters of padding, taken from the end. -/
def dropPadding (data : List Char) : List Char :=
  match data.reverse with
  | '=' :: '=' :: rest => rest.reverse
  | '=' :: rest => rest.reverse
  | _ => data

/-- `btoa(binary)` -/
def btoa (bytes : List UInt8) : List Char :=
  let digits := digitsOf (bytes.map UInt8.toNat)
  digits.map charOf ++ replicate ((4 - digits.length % 4) % 4) '='

/-- `atob(text)` -/
def atob (text : List Char) : Option (List UInt8) :=
  let data := text.filter fun c => !isAsciiWhitespace c
  let data := if data.length % 4 = 0 then dropPadding data else data
  if data.length % 4 = 1 then none else (data.mapM digitOf).map fun digits => (bytesOf digits).map UInt8.ofNat

/-! ## Round trips -/

theorem bytesOf_digitsOf {bytes : List ℕ} (small : ∀ byte ∈ bytes, byte < 256) : bytesOf (digitsOf bytes) = bytes := by
  induction bytes using digitsOf.induct with
  | case1 a b c rest ih =>
    simp only [forall_mem_cons] at small
    obtain ⟨first, second, third, rest⟩ := small
    rw [digitsOf, bytesOf, ih rest]
    simp only [cons.injEq, and_true]
    omega
  | case2 a b =>
    simp only [forall_mem_cons] at small
    obtain ⟨first, second, -⟩ := small
    simp only [digitsOf, bytesOf, cons.injEq, and_true]
    omega
  | case3 a =>
    simp only [forall_mem_cons] at small
    obtain ⟨first, -⟩ := small
    simp only [digitsOf, bytesOf, cons.injEq, and_true]
    omega
  | case4 => rfl

theorem digitsOf_lt {bytes : List ℕ} (small : ∀ byte ∈ bytes, byte < 256) : ∀ digit ∈ digitsOf bytes, digit < 64 := by
  induction bytes using digitsOf.induct with
  | case1 a b c rest ih =>
    simp only [forall_mem_cons] at small
    obtain ⟨first, second, third, rest⟩ := small
    simp only [digitsOf, forall_mem_cons]
    exact ⟨by omega, by omega, by omega, by omega, ih rest⟩
  | case2 a b =>
    simp only [forall_mem_cons] at small
    obtain ⟨first, second, -⟩ := small
    simp only [digitsOf, forall_mem_cons]
    exact ⟨by omega, by omega, by omega, fun _ impossible => absurd impossible not_mem_nil⟩
  | case3 a =>
    simp only [forall_mem_cons] at small
    obtain ⟨first, -⟩ := small
    simp only [digitsOf, forall_mem_cons]
    exact ⟨by omega, by omega, fun _ impossible => absurd impossible not_mem_nil⟩
  | case4 => exact fun _ impossible => absurd impossible not_mem_nil

/-- No byte is written as one digit. -/
theorem digitsOf_length (bytes : List ℕ) : (digitsOf bytes).length % 4 ≠ 1 := by
  induction bytes using digitsOf.induct with
  | case1 a b c rest ih =>
    simp only [digitsOf, length_cons]
    omega
  | case2 a b =>
    simp only [digitsOf, length_cons, length_nil]
    omega
  | case3 a =>
    simp only [digitsOf, length_cons, length_nil]
    omega
  | case4 => exact Nat.zero_ne_one

theorem digitOf_charOf {digit : ℕ} (small : digit < 64) : digitOf (charOf digit) = some digit := by
  interval_cases digit <;> decide

theorem mapM_digitOf {digits : List ℕ} (small : ∀ digit ∈ digits, digit < 64) :
    (digits.map charOf).mapM digitOf = some digits := by
  induction digits with
  | nil => rfl
  | cons digit rest ih =>
    obtain ⟨head, others⟩ := forall_mem_cons.mp small
    rw [map_cons, mapM_cons, digitOf_charOf head, ih others]
    rfl

theorem charOf_known {digit : ℕ} (small : digit < 64) : isAsciiWhitespace (charOf digit) = false ∧ charOf digit ≠ '=' := by
  interval_cases digit <;> decide

/-- Padding behind a text that has none is taken off again. -/
theorem dropPadding_append {text : List Char} (plain : '=' ∉ text) {count : ℕ} (few : count ≤ 2) :
    dropPadding (text ++ replicate count '=') = text := by
  have unpadded : dropPadding text = text := by
    unfold dropPadding
    split
    next rest ends =>
      exact absurd (mem_reverse.mp (ends ▸ mem_cons_self)) plain
    next rest _ ends =>
      exact absurd (mem_reverse.mp (ends ▸ mem_cons_self)) plain
    next => rfl
  match count, few with
  | 0, _ => rw [replicate_zero, append_nil, unpadded]
  | 1, _ =>
    unfold dropPadding
    rw [reverse_append]
    change (match '=' :: text.reverse with
      | '=' :: '=' :: rest => rest.reverse
      | '=' :: rest => rest.reverse
      | _ => text ++ replicate 1 '=') = text
    split
    next rest ends =>
      have last : '=' ∈ text.reverse := (cons.inj ends).2 ▸ mem_cons_self
      exact absurd (mem_reverse.mp last) plain
    next rest _ ends => rw [← (cons.inj ends).2, reverse_reverse]
    next none => exact absurd rfl (none text.reverse)
  | 2, _ =>
    unfold dropPadding
    rw [reverse_append]
    exact reverse_reverse text

/-- Digits with the padding they need are read back. -/
theorem atob_padded {digits : List ℕ} (small : ∀ digit ∈ digits, digit < 64) (whole : digits.length % 4 ≠ 1) :
    atob (digits.map charOf ++ replicate ((4 - digits.length % 4) % 4) '=') =
      some ((bytesOf digits).map UInt8.ofNat) := by
  have solid : (digits.map charOf ++ replicate ((4 - digits.length % 4) % 4) '=').filter (fun c => !isAsciiWhitespace c) =
      digits.map charOf ++ replicate ((4 - digits.length % 4) % 4) '=' := by
    apply filter_eq_self.mpr
    intro c member
    rcases mem_append.mp member with written | padding
    · obtain ⟨digit, inside, rfl⟩ := mem_map.mp written
      rw [(charOf_known (small digit inside)).1]
      rfl
    · rw [(mem_replicate.mp padding).2]
      decide
  have plain : '=' ∉ digits.map charOf := by
    intro written
    obtain ⟨digit, inside, same⟩ := mem_map.mp written
    exact (charOf_known (small digit inside)).2 same
  have quadruples : (digits.map charOf ++ replicate ((4 - digits.length % 4) % 4) '=').length % 4 = 0 := by
    rw [length_append, length_map, length_replicate]
    omega
  have unpadded : (digits.map charOf).length % 4 ≠ 1 := by
    rw [length_map]
    exact whole
  unfold atob
  rw [solid]
  dsimp only
  rw [if_pos quadruples, dropPadding_append plain (by omega), if_neg unpadded, mapM_digitOf small, Option.map_some]

theorem bytes_small (bytes : List UInt8) : ∀ byte ∈ bytes.map UInt8.toNat, byte < 256 := by
  rw [forall_mem_map]
  exact fun byte _ => byte.toNat_lt

theorem ofNat_bytesOf_digitsOf (bytes : List UInt8) :
    (bytesOf (digitsOf (bytes.map UInt8.toNat))).map UInt8.ofNat = bytes := by
  rw [bytesOf_digitsOf (bytes_small bytes), map_map]
  conv_rhs => rw [← map_id bytes]
  apply map_congr_left
  intro byte _
  exact UInt8.ofNat_toNat

/-- What is written is read back. -/
theorem atob_btoa (bytes : List UInt8) : atob (btoa bytes) = some bytes := by
  rw [btoa, atob_padded (digitsOf_lt (bytes_small bytes)) (digitsOf_length _), ofNat_bytesOf_digitsOf]

/-! ## The spelling for addresses -/

def toUrl (c : Char) : Char := if c = '+' then '-' else if c = '/' then '_' else c

def fromUrl (c : Char) : Char := if c = '-' then '+' else if c = '_' then '/' else c

/-- `btoa(binary).replace(/\+/g, '-').replace(/\//g, '_').replace(/=+$/, '')` -/
def base64UrlEncode (bytes : List UInt8) : List Char := ((btoa bytes).map toUrl).rdropWhile (· == '=')

/-- The padding that makes the length a multiple of four. -/
def padEnd (text : List Char) : List Char := text ++ replicate ((text.length + 3) / 4 * 4 - text.length) '='

def base64UrlDecode (value : List Char) : Option (List UInt8) := atob (padEnd (value.map fromUrl))

theorem toUrl_charOf {digit : ℕ} (small : digit < 64) :
    toUrl (charOf digit) ≠ '=' ∧ toUrl (charOf digit) ≠ '.' ∧ fromUrl (toUrl (charOf digit)) = charOf digit := by
  interval_cases digit <;> decide

/-- The digits in the spelling for addresses, without padding. -/
theorem base64UrlEncode_eq (bytes : List UInt8) :
    base64UrlEncode bytes = (digitsOf (bytes.map UInt8.toNat)).map fun digit => toUrl (charOf digit) := by
  have small := digitsOf_lt (bytes_small bytes)
  have padding (count : ℕ) : (replicate count '=').map toUrl = replicate count '=' := by
    rw [map_replicate]
    rfl
  have padded : ∀ c ∈ replicate ((4 - (digitsOf (bytes.map UInt8.toNat)).length % 4) % 4) '=', (c == '=') = true :=
    fun c member => beq_iff_eq.mpr (mem_replicate.mp member).2
  have stops : ((digitsOf (bytes.map UInt8.toNat)).map fun digit => toUrl (charOf digit)).reverse.dropWhile (· == '=') =
      ((digitsOf (bytes.map UInt8.toNat)).map fun digit => toUrl (charOf digit)).reverse := by
    rw [dropWhile_eq_self_iff]
    intro some last
    obtain ⟨digit, member, same⟩ := mem_map.mp (mem_reverse.mp (getElem_mem some))
    exact (toUrl_charOf (small digit member)).1 (same.trans (beq_iff_eq.mp last))
  rw [base64UrlEncode, btoa, map_append, padding, rdropWhile, reverse_append, reverse_replicate,
    dropWhile_append_of_pos padded, map_map]
  exact (congrArg reverse stops).trans (reverse_reverse _)

/-- No character of the spelling for addresses separates the parts of a token. -/
theorem base64UrlEncode_plain (bytes : List UInt8) : '.' ∉ base64UrlEncode bytes := by
  rw [base64UrlEncode_eq]
  intro member
  obtain ⟨digit, inside, same⟩ := mem_map.mp member
  exact (toUrl_charOf (digitsOf_lt (bytes_small bytes) digit inside)).2.1 same

/-- What is written for addresses is read back. -/
theorem base64UrlDecode_encode (bytes : List UInt8) : base64UrlDecode (base64UrlEncode bytes) = some bytes := by
  have small := digitsOf_lt (bytes_small bytes)
  have spelled : (base64UrlEncode bytes).map fromUrl = (digitsOf (bytes.map UInt8.toNat)).map charOf := by
    rw [base64UrlEncode_eq, map_map]
    exact map_congr_left fun digit member => (toUrl_charOf (small digit member)).2.2
  have padding : ((digitsOf (bytes.map UInt8.toNat)).length + 3) / 4 * 4 - (digitsOf (bytes.map UInt8.toNat)).length =
      (4 - (digitsOf (bytes.map UInt8.toNat)).length % 4) % 4 := by omega
  rw [base64UrlDecode, spelled, padEnd, length_map, padding]
  exact atob_btoa bytes

end Base64
