import Mathlib.Data.List.DropRight
import Mathlib.Data.Nat.Digits.Lemmas
import MppRouter.Core.TextEncoding

/-! # Numbers in JSON

A number of a script by the digits that write it, shortest form: a double is the number its shortest digits name, so the
digits stand for it. The writer is `Number::toString`, the reader takes the number literals of JSON.
-/

namespace Json

open TextEncoding List Option

/-- The unit of an ASCII character. -/
def ascii (c : Char) : UInt16 := UInt16.ofNat c.toNat

def word (text : String) : Units := text.toList.map ascii

/-! ## Digits -/

abbrev Digit := Fin 10

def digitUnit (digit : Digit) : UInt16 := UInt16.ofNat (48 + digit)

def digitOf (unit : UInt16) : Option Digit :=
  if digit : 48 ≤ unit.toNat ∧ unit.toNat ≤ 57 then some ⟨unit.toNat - 48, by omega⟩ else none

/-- The number a run of digits names. -/
def valueOf (digits : List Digit) : ℕ := digits.foldl (fun value digit => 10 * value + digit.val) 0

/-- The digits of a number, the last first. -/
def reversedDigits (value : ℕ) : List Digit := (Nat.digits 10 value).map (Fin.ofNat 10)

/-- The digits of a number, without zeros in front of it. -/
def digitsOf (value : ℕ) : List Digit := if value = 0 then [0] else (reversedDigits value).reverse

/-- The digits a text begins with, and what follows them. -/
def readDigits : Units → List Digit × Units
  | [] => ([], [])
  | unit :: rest =>
    match digitOf unit with
    | some digit => (digit :: (readDigits rest).1, (readDigits rest).2)
    | none => ([], unit :: rest)

/-! ## Numbers -/

/-- A finite number other than zero: the digits after a point and the power of ten it is moved by. -/
structure Decimal where
  negative : Bool
  digits : List Digit
  point : ℤ
  nonempty : digits ≠ []
  leading : ∀ digit ∈ digits.head?, digit ≠ 0
  trailing : ∀ digit ∈ digits.getLast?, digit ≠ 0

/-- A number of a script. A zero has no sign that JSON would write. -/
inductive Number where
  | zero
  | finite (decimal : Decimal)
  | infinite (negative : Bool)

/-- The digits without the zeros around them. -/
def significant (digits : List Digit) : List Digit := (digits.dropWhile (· = 0)).rdropWhile (· = 0)

theorem significant_leading (digits : List Digit) : ∀ digit ∈ (significant digits).head?, digit ≠ 0 := by
  intro digit first zero
  have kept : significant digits <+: digits.dropWhile (· = 0) := rdropWhile_prefix _ _
  obtain ⟨rest, whole⟩ := kept
  cases shape : significant digits with
  | nil =>
    rw [shape] at first
    cases first
  | cons head tail =>
    rw [shape] at first whole
    cases first
    have dropped := head?_dropWhile_not (fun digit : Digit => decide (digit = 0)) digits
    rw [← whole] at dropped
    simp [zero] at dropped

theorem significant_trailing (digits : List Digit) : ∀ digit ∈ (significant digits).getLast?, digit ≠ 0 := by
  intro digit last zero
  by_cases empty : significant digits = []
  · rw [empty] at last
    cases last
  · have stops := rdropWhile_last_not (fun digit : Digit => decide (digit = 0)) (digits.dropWhile (· = 0)) empty
    rw [getLast?_eq_some_getLast empty, mem_some_iff] at last
    simp only [significant] at last
    rw [last] at stops
    exact stops (decide_eq_true zero)

/-- The number that digits after a point name, moved by a power of ten. -/
def normalise (negative : Bool) (digits : List Digit) (point : ℤ) : Number :=
  if some : significant digits ≠ [] then
    .finite { negative, digits := significant digits, point := point - (digits.takeWhile (· = 0)).length, nonempty := some
              leading := significant_leading digits, trailing := significant_trailing digits }
  else .zero

namespace Number

/-- A natural number. -/
def ofNat (value : ℕ) : Number := normalise false (digitsOf value) (digitsOf value).length

end Number

/-- The integer that a number is without its sign, where it is one. -/
def Decimal.integer (decimal : Decimal) : Option ℕ :=
  if decimal.digits.length ≤ decimal.point then
    some (valueOf decimal.digits * 10 ^ (decimal.point - decimal.digits.length).toNat)
  else none

/-- The natural number that a number is. -/
def Number.toNat? : Number → Option ℕ
  | .zero => some 0
  | .finite decimal => if decimal.negative then none else decimal.integer
  | .infinite _ => none

/-- The number is at most a natural number. -/
def Number.atMost (bound : ℕ) : Number → Bool
  | .zero => true
  | .finite decimal =>
    decimal.negative || decide (valueOf decimal.digits * 10 ^ (decimal.point - decimal.digits.length).toNat ≤
      bound * 10 ^ (decimal.digits.length - decimal.point).toNat)
  | .infinite negative => negative

/-- As far from zero as the largest double, and half a step more. -/
def Decimal.overflows (decimal : Decimal) : Bool :=
  decide ((2 ^ 1024 - 2 ^ 970) * 10 ^ (decimal.digits.length - decimal.point).toNat ≤
    valueOf decimal.digits * 10 ^ (decimal.point - decimal.digits.length).toNat)

/-- The number of a script for a decimal: what overflows is infinite, integers up to `2 ^ 53` are themselves, and every
other decimal is the double nearest to it. -/
def double (nearest : Decimal → Number) (decimal : Decimal) : Number :=
  if decimal.overflows then .infinite decimal.negative
  else if decimal.integer.any fun value => decide (value ≤ 2 ^ 53) then .finite decimal
  else nearest decimal

/-- The digits of a number with its point, or with the power of ten that puts it right. -/
def Decimal.unsigned (decimal : Decimal) : Units :=
  let digits := decimal.digits.map digitUnit
  let n := decimal.point
  if digits.length ≤ n ∧ n ≤ 21 then digits ++ replicate (n.toNat - digits.length) (ascii '0')
  else if 0 < n ∧ n ≤ 21 then digits.take n.toNat ++ ascii '.' :: digits.drop n.toNat
  else if -6 < n ∧ n ≤ 0 then ascii '0' :: ascii '.' :: (replicate (-n).toNat (ascii '0') ++ digits)
  else
    digits.take 1 ++ ((if digits.drop 1 = [] then [] else ascii '.' :: digits.drop 1) ++
      ascii 'e' :: ascii (if n - 1 < 0 then '-' else '+') :: (digitsOf (n - 1).natAbs).map digitUnit)

/-- `Number::toString` -/
def Decimal.text (decimal : Decimal) : Units :=
  (if decimal.negative then [ascii '-'] else []) ++ decimal.unsigned

/-- `JSON.stringify` of a number: one that is not finite has no literal. -/
def Number.text : Number → Units
  | .zero => [ascii '0']
  | .finite decimal => decimal.text
  | .infinite _ => word "null"

/-! ## Reading a literal -/

/-- The digits after a point, where there is one. -/
def readFraction (text : Units) : Option (List Digit × Units) :=
  match text with
  | [] => some ([], [])
  | unit :: rest =>
    if unit = ascii '.' then
      let read := readDigits rest
      if read.1 = [] then none else some read
    else some ([], unit :: rest)

/-- The sign of an exponent, where there is one. -/
def readSign (text : Units) : Bool × Units :=
  match text with
  | [] => (false, [])
  | unit :: rest => if unit = ascii '-' then (true, rest) else if unit = ascii '+' then (false, rest) else (false, text)

/-- The power of ten at the end of a literal, where there is one. -/
def readExponent (text : Units) : Option (ℤ × Units) :=
  match text with
  | [] => some (0, [])
  | unit :: rest =>
    if unit = ascii 'e' ∨ unit = ascii 'E' then
      let signed := readSign rest
      let read := readDigits signed.2
      if read.1 = [] then none else some (if signed.1 then -(valueOf read.1) else valueOf read.1, read.2)
    else some (0, text)

/-- A sign in front of a literal: only the minus. -/
def readMinus (text : Units) : Bool × Units :=
  match text with
  | [] => (false, [])
  | unit :: rest => if unit = ascii '-' then (true, rest) else (false, text)

/-- The number that stands for what a literal names, where the script's numbers do not hold that one. -/
def Number.round (round : Decimal → Number) : Number → Number
  | .finite decimal => round decimal
  | number => number

/-- A number literal and what follows it. -/
def readNumber (round : Decimal → Number) (text : Units) : Option (Number × Units) := do
  let signed := readMinus text
  let whole := readDigits signed.2
  if whole.1 = [] ∨ whole.1.head? = some 0 ∧ 1 < whole.1.length then none
  else
    let frac ← readFraction whole.2
    let exponent ← readExponent frac.2
    some ((normalise signed.1 (whole.1 ++ frac.1) (whole.1.length + exponent.1)).round round, exponent.2)

/-! ## What was written is read again -/

/-- What may follow a number without being read as part of it. -/
def Ends (rest : Units) : Prop :=
  ∀ unit ∈ rest.head?, digitOf unit = none ∧ unit ≠ ascii '.' ∧ unit ≠ ascii 'e' ∧ unit ≠ ascii 'E'

@[simp] theorem digitOf_digitUnit (digit : Digit) : digitOf (digitUnit digit) = some digit := by
  revert digit
  decide

theorem digitUnit_ne (digit : Digit) : digitUnit digit ≠ ascii '.' ∧ digitUnit digit ≠ ascii 'e' ∧
    digitUnit digit ≠ ascii 'E' ∧ digitUnit digit ≠ ascii '-' ∧ digitUnit digit ≠ ascii '+' := by
  revert digit
  decide

theorem digitUnit_zero : ascii '0' = digitUnit 0 := rfl

variable {rest : Units}

theorem readDigits_none (ends : ∀ unit ∈ rest.head?, digitOf unit = none) : readDigits rest = ([], rest) := by
  cases rest with
  | nil => rfl
  | cons unit rest => rw [readDigits, ends unit rfl]

/-- Digits are read up to what is none. -/
theorem readDigits_append (digits : List Digit) (ends : ∀ unit ∈ rest.head?, digitOf unit = none) :
    readDigits (digits.map digitUnit ++ rest) = (digits, rest) := by
  induction digits with
  | nil => exact readDigits_none ends
  | cons digit digits ih =>
    rw [map_cons, cons_append, readDigits, digitOf_digitUnit]
    simp only [ih]

theorem valueOf_append (front : List Digit) (digit : Digit) : valueOf (front ++ [digit]) = 10 * valueOf front + digit := by
  simp [valueOf]

/-- The digits of a number name it. -/
theorem valueOf_reversedDigits (value : ℕ) : valueOf (reversedDigits value).reverse = value := by
  induction value using Nat.strong_induction_on with
  | h value ih =>
    cases value with
    | zero => simp [reversedDigits, valueOf]
    | succ value =>
      have split : reversedDigits (value + 1) = Fin.ofNat 10 ((value + 1) % 10) :: reversedDigits ((value + 1) / 10) := by
        rw [reversedDigits, Nat.digits_def' (by decide) (Nat.succ_pos value)]
        rfl
      have smaller := ih ((value + 1) / 10) (by omega)
      rw [split, reverse_cons, valueOf_append, smaller, Fin.val_ofNat]
      omega

theorem valueOf_digitsOf (value : ℕ) : valueOf (digitsOf value) = value := by
  by_cases zero : value = 0
  · rw [zero]
    decide
  · rw [digitsOf, if_neg zero, valueOf_reversedDigits]

theorem digitsOf_ne_nil (value : ℕ) : digitsOf value ≠ [] := by
  intro empty
  by_cases zero : value = 0
  · rw [digitsOf, if_pos zero] at empty
    cases empty
  · have named := valueOf_digitsOf value
    rw [empty] at named
    exact zero named.symm

variable {digits : List Digit}

/-- Zeros in front of a digit that is none. -/
theorem zeros_dropped (count : ℕ) (leading : ∀ digit ∈ digits.head?, digit ≠ 0) :
    (replicate count 0 ++ digits).dropWhile (· = 0) = digits ∧
      (replicate count 0 ++ digits).takeWhile (· = 0) = replicate count 0 := by
  induction count with
  | zero =>
    cases digits with
    | nil => exact ⟨rfl, rfl⟩
    | cons digit digits =>
      have other : digit ≠ 0 := leading digit rfl
      simp [other]
  | succ count ih =>
    obtain ⟨dropped, taken⟩ := ih
    simp [replicate_succ, dropped, taken]

/-- Zeros around the digits of a number move only its point. -/
theorem normalise_padded (decimal : Decimal) (front back : ℕ) :
    normalise decimal.negative (replicate front 0 ++ (decimal.digits ++ replicate back 0))
      (decimal.point + front) = .finite decimal := by
  obtain ⟨negative, digits, point, nonempty, leading, trailing⟩ := decimal
  have first : ∀ digit ∈ (digits ++ replicate back 0).head?, digit ≠ 0 := by
    intro digit head
    apply leading digit
    rwa [head?_append_of_ne_nil _ nonempty] at head
  have last : ∀ digit ∈ digits.reverse.head?, digit ≠ 0 := by
    rw [head?_reverse]
    exact trailing
  obtain ⟨dropped, taken⟩ := zeros_dropped front first
  have kept : significant (replicate front 0 ++ (digits ++ replicate back 0)) = digits := by
    rw [significant, dropped, rdropWhile, reverse_append, reverse_replicate, (zeros_dropped back last).1,
      reverse_reverse]
  have some : significant (replicate front 0 ++ (digits ++ replicate back 0)) ≠ [] := by
    rw [kept]
    exact nonempty
  rw [normalise, dif_pos some]
  simp only [kept, taken, length_replicate, add_sub_cancel_right]

/-! ### Literals -/

theorem readMinus_written (negative : Bool) {text : Units} (unsigned : ∀ unit ∈ text.head?, unit ≠ ascii '-') :
    readMinus ((if negative then [ascii '-'] else []) ++ text) = (negative, text) := by
  cases negative with
  | true => rfl
  | false =>
    cases text with
    | nil => rfl
    | cons unit text => exact if_neg (unsigned unit rfl)

theorem readSign_written (negative : Bool) (text : Units) :
    readSign (ascii (if negative then '-' else '+') :: text) = (negative, text) := by
  cases negative <;> rfl

theorem readFraction_none (ends : ∀ unit ∈ rest.head?, unit ≠ ascii '.') : readFraction rest = some ([], rest) := by
  cases rest with
  | nil => rfl
  | cons unit rest => exact if_neg (ends unit rfl)

theorem readExponent_none (ends : ∀ unit ∈ rest.head?, unit ≠ ascii 'e' ∧ unit ≠ ascii 'E') :
    readExponent rest = some (0, rest) := by
  cases rest with
  | nil => rfl
  | cons unit rest =>
    obtain ⟨small, capital⟩ := ends unit rfl
    rw [readExponent, if_neg (not_or.mpr ⟨small, capital⟩)]

theorem readFraction_written (nonempty : digits ≠ []) (ends : ∀ unit ∈ rest.head?, digitOf unit = none) :
    readFraction (ascii '.' :: (digits.map digitUnit ++ rest)) = some (digits, rest) := by
  rw [readFraction, if_pos rfl]
  simp only [readDigits_append digits ends, if_neg nonempty]

theorem readExponent_written (exponent : ℤ) (ends : ∀ unit ∈ rest.head?, digitOf unit = none) :
    readExponent (ascii 'e' :: ascii (if exponent < 0 then '-' else '+') ::
      ((digitsOf exponent.natAbs).map digitUnit ++ rest)) = some (exponent, rest) := by
  have sign := readSign_written (decide (exponent < 0)) ((digitsOf exponent.natAbs).map digitUnit ++ rest)
  simp only [decide_eq_true_eq] at sign
  rw [readExponent, if_pos (.inl rfl)]
  simp only [sign, readDigits_append _ ends, if_neg (digitsOf_ne_nil _), valueOf_digitsOf, decide_eq_true_eq]
  congr 2
  split <;> omega

/-- A literal of whole digits, a fraction and an exponent is read as the number of all its digits. -/
theorem readNumber_of (round : Decimal → Number) (negative : Bool) {whole frac : List Digit} {exponent : ℤ}
    {fraction power : Units} (some : whole ≠ []) (standard : ¬ (whole.head? = Option.some 0 ∧ 1 < whole.length))
    (apart : ∀ unit ∈ fraction.head?, digitOf unit = none) (fractions : readFraction fraction = Option.some (frac, power))
    (powers : readExponent power = Option.some (exponent, rest)) :
    readNumber round ((if negative then [ascii '-'] else []) ++ (whole.map digitUnit ++ fraction)) =
      Option.some ((normalise negative (whole ++ frac) (whole.length + exponent)).round round, rest) := by
  have unsigned : ∀ unit ∈ (whole.map digitUnit ++ fraction).head?, unit ≠ ascii '-' := by
    intro unit head
    cases whole with
    | nil => exact absurd rfl some
    | cons digit whole =>
      cases head
      exact (digitUnit_ne digit).2.2.2.1
  have first : ¬ (whole = [] ∨ whole.head? = Option.some 0 ∧ 1 < whole.length) := not_or.mpr ⟨some, standard⟩
  simp only [readNumber, readMinus_written negative unsigned, readDigits_append whole apart, if_neg first, fractions,
    powers, bind_eq_bind, bind_some]

/-- The first digit of a number is no zero that a literal may not begin with. -/
theorem Decimal.standard (decimal : Decimal) {whole : List Digit} (begins : whole.head? = decimal.digits.head?) :
    ¬ (whole.head? = some 0 ∧ 1 < whole.length) := by
  rintro ⟨zero, -⟩
  exact decimal.leading 0 (begins ▸ zero) rfl

/-- A literal whose digits are those of a number, among zeros, with its point in the same place, is that number. -/
theorem round_padded (round : Decimal → Number) (decimal : Decimal) (front back : ℕ) {point : ℤ}
    (shape : digits = replicate front 0 ++ (decimal.digits ++ replicate back 0)) (place : point = decimal.point + front) :
    (normalise decimal.negative digits point).round round = round decimal := by
  rw [shape, place, normalise_padded]
  rfl

/-- What `Number::toString` writes is the literal of that number. -/
theorem readNumber_text (round : Decimal → Number) (decimal : Decimal) (ends : Ends rest) :
    readNumber round (decimal.text ++ rest) = some (round decimal, rest) := by
  have noDigit : ∀ unit ∈ rest.head?, digitOf unit = none := fun unit head => (ends unit head).1
  have noFraction := readFraction_none fun unit head => (ends unit head).2.1
  have noExponent := readExponent_none fun unit head => (ends unit head).2.2
  have length := length_pos_iff.mpr decimal.nonempty
  have point (more : Units) : ∀ unit ∈ (ascii '.' :: more).head?, digitOf unit = none := by
    rintro unit ⟨⟩
    decide
  have power (more : Units) : ∀ unit ∈ (ascii 'e' :: more).head?, digitOf unit = none ∧ unit ≠ ascii '.' := by
    rintro unit ⟨⟩
    decide
  rw [Decimal.text, append_assoc]
  by_cases whole : decimal.digits.length ≤ decimal.point ∧ decimal.point ≤ 21
  · -- zeros fill the digits up to the point
    have shape : decimal.unsigned ++ rest =
        (decimal.digits ++ replicate (decimal.point.toNat - decimal.digits.length) 0).map digitUnit ++ rest := by
      simp [Decimal.unsigned, whole, digitUnit_zero]
    rw [shape, readNumber_of round _ (by simp [decimal.nonempty])
      (decimal.standard (head?_append_of_ne_nil _ decimal.nonempty)) noDigit noFraction noExponent]
    rw [round_padded round decimal 0 (decimal.point.toNat - decimal.digits.length) (by simp)]
    simp only [length_append, length_replicate]
    omega
  by_cases inside : 0 < decimal.point ∧ decimal.point ≤ 21
  · -- the point stands among the digits
    have cut : decimal.point.toNat < decimal.digits.length := by omega
    have front : 0 < decimal.point.toNat := by omega
    have shape : decimal.unsigned ++ rest = (decimal.digits.take decimal.point.toNat).map digitUnit ++
        ascii '.' :: ((decimal.digits.drop decimal.point.toNat).map digitUnit ++ rest) := by
      rw [Decimal.unsigned, length_map, if_neg whole, if_pos inside, append_assoc, map_take, map_drop]
      rfl
    rw [shape, readNumber_of round _ (by simp [decimal.nonempty]; omega)
      (decimal.standard (by rw [head?_take, if_neg front.ne'])) (point _)
      (readFraction_written (by simpa using cut) noDigit) noExponent]
    rw [round_padded round decimal 0 0 (by simp)]
    simp only [length_take]
    omega
  by_cases small : -6 < decimal.point ∧ decimal.point ≤ 0
  · -- zeros fill the places between the point and the digits
    have shape : decimal.unsigned ++ rest = [0].map digitUnit ++
        ascii '.' :: ((replicate (-decimal.point).toNat 0 ++ decimal.digits).map digitUnit ++ rest) := by
      simp [Decimal.unsigned, whole, inside, small, digitUnit_zero]
    rw [shape, readNumber_of round _ (by simp) (by simp) (point _)
      (readFraction_written (by simp [decimal.nonempty]) noDigit) noExponent]
    rw [round_padded round decimal ((-decimal.point).toNat + 1) 0 (by simp [replicate_succ])]
    simp only [length_singleton]
    omega
  have powers := readExponent_written (decimal.point - 1) noDigit
  cases digits : decimal.digits with
  | nil => exact absurd digits decimal.nonempty
  | cons digit more =>
    have begins := decimal.standard (show [digit].head? = decimal.digits.head? by rw [digits]; rfl)
    cases more with
    | nil =>
      have shape : decimal.unsigned ++ rest = [digit].map digitUnit ++ ascii 'e' ::
          ascii (if decimal.point - 1 < 0 then '-' else '+') ::
            ((digitsOf (decimal.point - 1).natAbs).map digitUnit ++ rest) := by
        rw [Decimal.unsigned, length_map, if_neg whole, if_neg inside, if_neg small, digits]
        rfl
      rw [shape, readNumber_of round _ (by simp) begins (fun unit head => (power _ unit head).1)
        (readFraction_none fun unit head => (power _ unit head).2) powers]
      rw [round_padded round decimal 0 0 (by simp [digits])]
      simp
    | cons second more =>
      have shape : decimal.unsigned ++ rest = [digit].map digitUnit ++ ascii '.' :: ((second :: more).map digitUnit ++
          ascii 'e' :: ascii (if decimal.point - 1 < 0 then '-' else '+') ::
            ((digitsOf (decimal.point - 1).natAbs).map digitUnit ++ rest)) := by
        rw [Decimal.unsigned, length_map, if_neg whole, if_neg inside, if_neg small, digits]
        simp
      rw [shape, readNumber_of round _ (by simp) begins (point _)
        (readFraction_written (by simp) fun unit head => (power _ unit head).1) powers]
      rw [round_padded round decimal 0 0 (by simp [digits])]
      simp

/-! ## Natural numbers -/

theorem valueOf_append_zeros (digits : List Digit) (count : ℕ) :
    valueOf (digits ++ replicate count 0) = valueOf digits * 10 ^ count := by
  induction count with
  | zero => simp
  | succ count ih =>
    rw [replicate_succ', ← append_assoc, valueOf_append, ih, pow_succ, Fin.val_zero]
    ring

/-- The digits up to the last that is no zero, and the zeros after it. -/
theorem trailing_zeros (digits : List Digit) :
    ∃ count, digits = digits.rdropWhile (· = 0) ++ replicate count 0 := by
  induction digits using reverseRecOn with
  | nil => exact ⟨0, rfl⟩
  | append_singleton digits digit ih =>
    by_cases zero : digit = 0
    · obtain ⟨count, shape⟩ := ih
      refine ⟨count + 1, ?_⟩
      rw [rdropWhile_concat, if_pos (decide_eq_true zero), replicate_succ', ← append_assoc, ← shape, zero]
    · refine ⟨0, ?_⟩
      rw [rdropWhile_concat, if_neg (by simpa using zero)]
      simp

theorem digitsOf_leading {value : ℕ} (positive : value ≠ 0) : ∀ digit ∈ (digitsOf value).head?, digit ≠ 0 := by
  intro digit first zero
  have some : Nat.digits 10 value ≠ [] := Nat.digits_ne_nil_iff_ne_zero.mpr positive
  rw [digitsOf, if_neg positive, head?_reverse, reversedDigits, getLast?_map,
    getLast?_eq_some_getLast some, map_some, mem_some_iff] at first
  have last := Nat.getLast_digit_ne_zero 10 positive
  have small := Nat.digits_lt_base (b := 10) (by decide) (getLast_mem some)
  rw [zero, Fin.ext_iff, Fin.val_ofNat, Nat.mod_eq_of_lt small] at first
  exact last first

/-- A natural number as a number of a script. -/
theorem ofNat_eq {value : ℕ} (positive : value ≠ 0) : ∃ decimal, Number.ofNat value = .finite decimal ∧
    decimal.negative = false ∧ decimal.integer = some value := by
  have kept : (digitsOf value).dropWhile (· = 0) = digitsOf value := (zeros_dropped 0 (digitsOf_leading positive)).1
  have none : (digitsOf value).takeWhile (· = 0) = [] := (zeros_dropped 0 (digitsOf_leading positive)).2
  obtain ⟨count, shape⟩ := trailing_zeros (digitsOf value)
  have named := valueOf_digitsOf value
  have length := congrArg length shape
  rw [length_append, length_replicate] at length
  have some : significant (digitsOf value) ≠ [] := by
    intro empty
    rw [significant, kept] at empty
    rw [empty, nil_append] at shape
    rw [shape, ← nil_append (replicate count 0), valueOf_append_zeros] at named
    simp [valueOf] at named
    exact positive named.symm
  rw [Number.ofNat, normalise, dif_pos some]
  refine ⟨_, rfl, rfl, ?_⟩
  have places : ((digitsOf value).length - (significant (digitsOf value)).length : ℤ).toNat = count := by
    rw [significant, kept]
    omega
  rw [Decimal.integer, if_pos]
  · simp only [none, length_nil, Nat.cast_zero, sub_zero, places]
    rw [← valueOf_append_zeros, significant, kept, ← shape, named]
  · simp only [none, length_nil, Nat.cast_zero, sub_zero, significant, kept]
    omega

@[simp] theorem toNat?_ofNat (value : ℕ) : (Number.ofNat value).toNat? = some value := by
  by_cases positive : value = 0
  · rw [positive]
    rfl
  · obtain ⟨decimal, shape, unsigned, integer⟩ := ofNat_eq positive
    simp [shape, Number.toNat?, unsigned, integer]

theorem ofNat_injective : Function.Injective Number.ofNat := by
  intro first second same
  have read := congrArg Number.toNat? same
  rwa [toNat?_ofNat, toNat?_ofNat, some.injEq] at read

/-- Small natural numbers are numbers of a script. -/
theorem double_ofNat (nearest : Decimal → Number) {value : ℕ} (small : value ≤ 2 ^ 53) :
    (Number.ofNat value).round (double nearest) = Number.ofNat value := by
  by_cases positive : value = 0
  · rw [positive]
    rfl
  · obtain ⟨decimal, shape, -, integer⟩ := ofNat_eq positive
    have finite : decimal.overflows = false := by
      unfold Decimal.integer at integer
      split at integer
      next whole =>
        have exact := some.inj integer
        have fraction : (decimal.digits.length - decimal.point).toNat = 0 := by omega
        have large : 2 ^ 53 < (2 : ℕ) ^ 1024 - 2 ^ 970 := by decide +kernel
        rw [Decimal.overflows, decide_eq_false_iff_not, fraction, pow_zero, mul_one, exact]
        exact (small.trans_lt large).not_ge
      next => cases integer
    rw [shape, Number.round, double, finite, if_neg Bool.false_ne_true, integer, any_some, if_pos (decide_eq_true small)]

theorem atMost_ofNat (value bound : ℕ) : (Number.ofNat value).atMost bound = decide (value ≤ bound) := by
  by_cases positive : value = 0
  · rw [positive, decide_eq_true (Nat.zero_le bound)]
    rfl
  · obtain ⟨decimal, shape, unsigned, integer⟩ := ofNat_eq positive
    unfold Decimal.integer at integer
    split at integer
    next whole =>
      have exact := some.inj integer
      have fraction : (decimal.digits.length - decimal.point).toNat = 0 := by omega
      rw [shape, Number.atMost, unsigned, Bool.false_or, exact, fraction, pow_zero, mul_one]
    next => cases integer

end Json
