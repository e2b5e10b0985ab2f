import Mathlib.Data.List.DropRight

/-! # Decimal literals

The numbers that plain decimal digit strings denote, as arbitrary-precision integers.
-/

namespace Decimal

/-- The number a run of decimal digits denotes. -/
def digitsValue (digits : List Char) : ℕ :=
  digits.foldl (fun value digit => 10 * value + (digit.toNat - '0'.toNat)) 0

/-- A non-empty run of ASCII digits. -/
def isDigits (text : List Char) : Bool := !text.isEmpty && text.all Char.isDigit

/-- The number of an unsigned digit string, and nothing for any other string. -/
def parseNat (text : List Char) : Option ℕ := if isDigits text then some (digitsValue text) else none

/-- The integer of an optionally signed digit string, and nothing for any other string. -/
def parseInt (text : List Char) : Option ℤ :=
  match text with
  | '-' :: digits => (parseNat digits).map fun value => -(value : ℤ)
  | digits => (parseNat digits).map fun value => (value : ℤ)

/-! ## What `BigInt` reads -/

/-- White space and line ends, as a script trims them. -/
def isSpace (c : Char) : Bool :=
  let code := c.toNat
  (9 ≤ code ∧ code ≤ 13) ∨ (0x2000 ≤ code ∧ code ≤ 0x200A) ∨
    code ∈ [0x20, 0xA0, 0x1680, 0x2028, 0x2029, 0x202F, 0x205F, 0x3000, 0xFEFF]

/-- The value of a digit in bases up to sixteen. -/
def digit (c : Char) : Option ℕ :=
  if c.isDigit then some (c.toNat - '0'.toNat)
  else
    let lower := c.toLower
    if 'a' ≤ lower ∧ lower ≤ 'f' then some (lower.toNat - 'a'.toNat + 10) else none

/-- The number of a non-empty run of digits in a base. -/
def parseBase (base : ℕ) (text : List Char) : Option ℕ :=
  if text.isEmpty then none
  else text.foldlM (fun value c => ((digit c).filter (· < base)).map (base * value + ·)) 0

/-- The integer that `BigInt` makes of a text, and nothing where it throws. -/
def bigInt (text : String) : Option ℤ :=
  match (text.toList.dropWhile isSpace).rdropWhile isSpace with
  | [] => some 0
  | '0' :: 'x' :: digits | '0' :: 'X' :: digits => (parseBase 16 digits).map fun value => (value : ℤ)
  | '0' :: 'o' :: digits | '0' :: 'O' :: digits => (parseBase 8 digits).map fun value => (value : ℤ)
  | '0' :: 'b' :: digits | '0' :: 'B' :: digits => (parseBase 2 digits).map fun value => (value : ℤ)
  | '+' :: digits => (parseNat digits).map fun value => (value : ℤ)
  | digits => parseInt digits

example : bigInt " 0x10 " = some 16 ∧ bigInt "" = some 0 ∧ bigInt "1.5" = none := by decide

end Decimal
