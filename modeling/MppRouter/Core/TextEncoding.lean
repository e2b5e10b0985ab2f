import Mathlib.Data.List.Basic

/-! # Encoding text

A script's string is a list of 16-bit code units, in which surrogates stand in pairs for one character or, where a string
is cut or made up, alone. Its encoder replaces the ones that stand alone and writes what is then there as UTF-8.
-/

namespace TextEncoding

open List
open Bool (and_eq_true false_eq_true eq_false_iff)

/-- A string of a script: its UTF-16 code units. -/
abbrev Units := List UInt16

def isHigh (unit : UInt16) : Bool := 0xD800 ≤ unit && unit ≤ 0xDBFF

def isLow (unit : UInt16) : Bool := 0xDC00 ≤ unit && unit ≤ 0xDFFF

/-- What stands for a surrogate without its other half. -/
def replacement : Char := '\uFFFD'

/-- The character of a unit that is no half of a pair. -/
def single (unit : UInt16) : Char := if isHigh unit || isLow unit then replacement else Char.ofNat unit.toNat

/-- The character of a surrogate pair. -/
def pair (high low : UInt16) : Char :=
  Char.ofNat (0x10000 + (high.toNat - 0xD800) * 0x400 + (low.toNat - 0xDC00))

/-- The characters of a string, each surrogate that stands alone replaced. -/
def scalars : Units → List Char
  | [] => []
  | [unit] => [single unit]
  | unit :: next :: rest =>
    if isHigh unit && isLow next then pair unit next :: scalars rest else single unit :: scalars (next :: rest)

/-- No surrogate stands alone. -/
def wellFormed : Units → Bool
  | [] => true
  | [unit] => !(isHigh unit || isLow unit)
  | unit :: next :: rest =>
    if isHigh unit && isLow next then wellFormed rest
    else !(isHigh unit || isLow unit) && wellFormed (next :: rest)

/-- The units of a character. -/
def unitsOf (c : Char) : Units :=
  if c.toNat < 0x10000 then [UInt16.ofNat c.toNat]
  else [UInt16.ofNat (0xD800 + (c.toNat - 0x10000) / 0x400), UInt16.ofNat (0xDC00 + (c.toNat - 0x10000) % 0x400)]

/-- The units of a text. -/
def units (text : List Char) : Units := text.flatMap unitsOf

/-- `new TextEncoder().encode(value)` -/
def encode (value : Units) : List UInt8 := (scalars value).flatMap String.utf8EncodeChar

/-! ## Units and characters -/

theorem char_valid (c : Char) : c.toNat < 0xD800 ∨ 0xDFFF < c.toNat ∧ c.toNat < 0x110000 := c.valid

theorem toNat_ofNat {code : ℕ} (valid : code.isValidChar) : (Char.ofNat code).toNat = code := by
  rw [Char.ofNat, dif_pos valid]
  rfl

variable {unit : UInt16}

theorem isHigh_iff : isHigh unit = true ↔ 0xD800 ≤ unit.toNat ∧ unit.toNat ≤ 0xDBFF := by
  simp only [isHigh, and_eq_true, decide_eq_true_eq, UInt16.le_iff_toNat_le]
  rfl

theorem isLow_iff : isLow unit = true ↔ 0xDC00 ≤ unit.toNat ∧ unit.toNat ≤ 0xDFFF := by
  simp only [isLow, and_eq_true, decide_eq_true_eq, UInt16.le_iff_toNat_le]
  rfl

theorem toNat_ofNat16 {code : ℕ} (short : code < 0x10000) : (UInt16.ofNat code).toNat = code := by
  rw [UInt16.toNat_ofNat']
  exact Nat.mod_eq_of_lt short

/-- The character of a pair, as a number. -/
theorem toNat_pair {high low : UInt16} (isHigh : 0xD800 ≤ high.toNat ∧ high.toNat ≤ 0xDBFF)
    (isLow : 0xDC00 ≤ low.toNat ∧ low.toNat ≤ 0xDFFF) :
    (pair high low).toNat = 0x10000 + (high.toNat - 0xD800) * 0x400 + (low.toNat - 0xDC00) := by
  apply toNat_ofNat
  right
  omega

/-- The character of a unit that is no surrogate, as a number. -/
theorem toNat_single (plain : (isHigh unit || isLow unit) = false) : (single unit).toNat = unit.toNat := by
  simp only [single, plain, false_eq_true, if_false]
  rw [Bool.or_eq_false_iff] at plain
  have high := isHigh_iff.not.mp (eq_false_iff.mp plain.1)
  have low := isLow_iff.not.mp (eq_false_iff.mp plain.2)
  have short := unit.toNat_lt
  apply toNat_ofNat
  by_cases below : unit.toNat < 0xD800
  · exact .inl below
  · right
    omega

theorem unitsOf_single (plain : (isHigh unit || isLow unit) = false) : unitsOf (single unit) = [unit] := by
  have short : (single unit).toNat < 0x10000 := by
    rw [toNat_single plain]
    exact unit.toNat_lt
  rw [unitsOf, if_pos short, toNat_single plain, UInt16.ofNat_toNat]

theorem unitsOf_pair {high low : UInt16} (pairs : (isHigh high && isLow low) = true) :
    unitsOf (pair high low) = [high, low] := by
  rw [and_eq_true, isHigh_iff, isLow_iff] at pairs
  obtain ⟨isHigh, isLow⟩ := pairs
  have code := toNat_pair isHigh isLow
  have long : ¬ (pair high low).toNat < 0x10000 := by omega
  have first : 0xD800 + ((pair high low).toNat - 0x10000) / 0x400 = high.toNat := by omega
  have second : 0xDC00 + ((pair high low).toNat - 0x10000) % 0x400 = low.toNat := by omega
  rw [unitsOf, if_neg long, first, second, UInt16.ofNat_toNat, UInt16.ofNat_toNat]

/-- A string without lone surrogates is the units of its characters. -/
theorem units_scalars {value : Units} (formed : wellFormed value = true) : units (scalars value) = value := by
  induction value using scalars.induct with
  | case1 => rfl
  | case2 unit =>
    simp only [wellFormed, Bool.not_eq_true'] at formed
    simp only [scalars, units, flatMap_cons, flatMap_nil, append_nil, unitsOf_single formed]
  | case3 high low rest pairs ih =>
    simp only [wellFormed, pairs, if_true] at formed
    simp only [scalars, pairs, if_true, units, flatMap_cons, unitsOf_pair pairs]
    exact congrArg (high :: low :: ·) (ih formed)
  | case4 unit next rest apart ih =>
    simp only [wellFormed, apart, false_eq_true, if_false, and_eq_true, Bool.not_eq_true'] at formed
    simp only [scalars, apart, false_eq_true, if_false, units, flatMap_cons, unitsOf_single formed.1]
    exact congrArg (unit :: ·) (ih formed.2)

/-- Strings without lone surrogates are told apart by their characters. -/
theorem scalars_inj {first second : Units} (formed : wellFormed first = true) (also : wellFormed second = true)
    (same : scalars first = scalars second) : first = second := by
  rw [← units_scalars formed, same, units_scalars also]

theorem scalars_cons_of_not_high (plain : isHigh unit = false) (rest : Units) :
    scalars (unit :: rest) = single unit :: scalars rest := by
  cases rest with
  | nil => rfl
  | cons next rest => simp only [scalars, plain, Bool.false_and, false_eq_true, if_false]

theorem scalars_unitsOf_append (c : Char) (rest : Units) : scalars (unitsOf c ++ rest) = c :: scalars rest := by
  have valid := char_valid c
  by_cases short : c.toNat < 0x10000
  · have code : (UInt16.ofNat c.toNat).toNat = c.toNat := toNat_ofNat16 short
    have high : isHigh (UInt16.ofNat c.toNat) = false := by
      rw [eq_false_iff, ne_eq, isHigh_iff, code]
      omega
    have low : isLow (UInt16.ofNat c.toNat) = false := by
      rw [eq_false_iff, ne_eq, isLow_iff, code]
      omega
    have character : single (UInt16.ofNat c.toNat) = c := by
      rw [single, high, low, Bool.or_false, if_neg Bool.false_ne_true, code, Char.ofNat_toNat]
    rw [unitsOf, if_pos short, singleton_append, scalars_cons_of_not_high high, character]
  · have first : (UInt16.ofNat (0xD800 + (c.toNat - 0x10000) / 0x400)).toNat = 0xD800 + (c.toNat - 0x10000) / 0x400 :=
      toNat_ofNat16 (by omega)
    have second : (UInt16.ofNat (0xDC00 + (c.toNat - 0x10000) % 0x400)).toNat = 0xDC00 + (c.toNat - 0x10000) % 0x400 :=
      toNat_ofNat16 (by omega)
    have high : isHigh (UInt16.ofNat (0xD800 + (c.toNat - 0x10000) / 0x400)) = true := by
      rw [isHigh_iff, first]
      omega
    have low : isLow (UInt16.ofNat (0xDC00 + (c.toNat - 0x10000) % 0x400)) = true := by
      rw [isLow_iff, second]
      omega
    have character : pair (UInt16.ofNat (0xD800 + (c.toNat - 0x10000) / 0x400))
        (UInt16.ofNat (0xDC00 + (c.toNat - 0x10000) % 0x400)) = c := by
      apply Char.toNat_inj.mp
      rw [toNat_pair (isHigh_iff.mp high) (isLow_iff.mp low), first, second]
      omega
    simp only [unitsOf, if_neg short, cons_append, nil_append, scalars, high, low, Bool.and_self, if_true,
      character]

/-- The characters of a text's units are the text. -/
theorem scalars_units_append (text : List Char) (rest : Units) : scalars (units text ++ rest) = text ++ scalars rest := by
  induction text with
  | nil => rfl
  | cons c text ih =>
    rw [units, flatMap_cons, append_assoc, scalars_unitsOf_append]
    exact congrArg (c :: ·) ih

theorem scalars_units (text : List Char) : scalars (units text) = text := by
  have appended := scalars_units_append text []
  rwa [append_nil, scalars, append_nil] at appended

theorem units_injective : Function.Injective units := by
  intro first second same
  rw [← scalars_units first, same, scalars_units]

/-! ## UTF-8 -/

/-- Different texts have different bytes. -/
theorem utf8_injective : Function.Injective fun text : List Char => text.flatMap String.utf8EncodeChar := by
  intro first second same
  have encoded : first.utf8Encode = second.utf8Encode := congrArg List.toByteArray same
  have decoded := congrArg ByteArray.utf8Decode? encoded
  rw [utf8Decode?_utf8Encode, utf8Decode?_utf8Encode] at decoded
  have arrays := Option.some.inj decoded
  simpa using congrArg Array.toList arrays

theorem encode_inj {first second : Units} : encode first = encode second ↔ scalars first = scalars second :=
  ⟨fun same => utf8_injective same, fun same => congrArg (List.flatMap String.utf8EncodeChar) same⟩

/-! ## Cutting a string in two -/

/-- Before anything but the second half of a pair a string may be cut. -/
theorem scalars_append (front : Units) (whole : isLow unit = false) (back : Units) :
    scalars (front ++ unit :: back) = scalars front ++ scalars (unit :: back) := by
  induction front using scalars.induct with
  | case1 => rfl
  | case2 last =>
    simp only [scalars, whole, Bool.and_false, false_eq_true, if_false, cons_append,
      nil_append]
  | case3 high low rest pairs ih => simp only [cons_append, scalars, pairs, if_true, ih]
  | case4 first next rest apart ih =>
    simp only [cons_append, scalars, apart, false_eq_true, if_false, cons.injEq, true_and]
    simpa only [cons_append] using ih

theorem encode_append (front : Units) (whole : isLow unit = false) (back : Units) :
    encode (front ++ unit :: back) = encode front ++ encode (unit :: back) := by
  simp only [encode, scalars_append front whole, flatMap_append]

/-- No character begins with the second half of a pair. -/
theorem unitsOf_cons (c : Char) : ∃ unit rest, unitsOf c = unit :: rest ∧ isLow unit = false := by
  have valid := char_valid c
  by_cases short : c.toNat < 0x10000
  · refine ⟨_, [], if_pos short, ?_⟩
    rw [eq_false_iff, ne_eq, isLow_iff, toNat_ofNat16 short]
    omega
  · refine ⟨_, _, if_neg short, ?_⟩
    rw [eq_false_iff, ne_eq, isLow_iff, toNat_ofNat16 (by omega)]
    omega

/-- The bytes of a string before a text. -/
theorem encode_append_units (front : Units) (c : Char) (text : List Char) (rest : Units) :
    encode (front ++ (units (c :: text) ++ rest)) = encode front ++ encode (units (c :: text) ++ rest) := by
  obtain ⟨unit, others, head, whole⟩ := unitsOf_cons c
  have begins : units (c :: text) ++ rest = unit :: (others ++ (units text ++ rest)) := by
    rw [units, flatMap_cons, head, append_assoc]
    rfl
  rw [begins]
  exact encode_append front whole _

/-- The bytes of a text before a string. -/
theorem encode_units_append (text : List Char) (rest : Units) :
    encode (units text ++ rest) = text.flatMap String.utf8EncodeChar ++ encode rest := by
  rw [encode, scalars_units_append, flatMap_append]
  rfl

/-! ## Strings without lone surrogates -/

/-- A unit that is no half of a pair. -/
def isSingle (unit : UInt16) : Bool := !(isHigh unit || isLow unit)

theorem wellFormed_cons (plain : isSingle unit = true) (rest : Units) :
    wellFormed (unit :: rest) = wellFormed rest := by
  unfold isSingle at plain
  cases rest with
  | nil => exact plain
  | cons next rest =>
    rw [Bool.not_eq_true', Bool.or_eq_false_iff] at plain
    simp only [wellFormed, plain.1, plain.2, Bool.false_and, Bool.or_self, false_eq_true, if_false, Bool.not_false,
      Bool.true_and]

theorem wellFormed_append {front back : Units} (formed : wellFormed front = true) (also : wellFormed back = true) :
    wellFormed (front ++ back) = true := by
  induction front using wellFormed.induct with
  | case1 => exact also
  | case2 unit =>
    rw [singleton_append, wellFormed_cons formed]
    exact also
  | case3 high low rest pairs ih =>
    simp only [cons_append, wellFormed, pairs, if_true] at formed ⊢
    exact ih formed
  | case4 unit next rest apart ih =>
    simp only [wellFormed, apart, false_eq_true, if_false, and_eq_true] at formed
    rw [cons_append, wellFormed_cons formed.1]
    exact ih formed.2

theorem wellFormed_of_single {text : Units} (plain : ∀ unit ∈ text, isSingle unit = true) : wellFormed text = true := by
  induction text with
  | nil => rfl
  | cons unit rest ih =>
    obtain ⟨first, others⟩ := forall_mem_cons.mp plain
    rw [wellFormed_cons first]
    exact ih others

/-! ## Decoding -/

def BYTE_ORDER_MARK : Char := '\uFEFF'

/-- `new TextDecoder().decode(bytes)`, which takes a byte order mark off and replaces what is no UTF-8 in its own way. -/
def decode (replaced : List UInt8 → Units) (bytes : List UInt8) : Units :=
  match bytes.toByteArray.utf8Decode? with
  | some chars => units (if chars.toList.head? = some BYTE_ORDER_MARK then chars.toList.tail else chars.toList)
  | none => replaced bytes

/-- What was encoded is decoded to the same string. -/
theorem decode_encode (replaced : List UInt8 → Units) {value : Units} (formed : wellFormed value = true)
    (unmarked : (scalars value).head? ≠ some BYTE_ORDER_MARK) : decode replaced (encode value) = value := by
  have bytes : (encode value).toByteArray = (scalars value).utf8Encode := rfl
  rw [decode, bytes, utf8Decode?_utf8Encode]
  simp only [if_neg unmarked, units_scalars formed]

end TextEncoding
