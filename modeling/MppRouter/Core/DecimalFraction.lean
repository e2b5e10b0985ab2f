import Mathlib.Tactic.FieldSimp
import Mathlib.Tactic.Positivity
import Mathlib.Tactic.Ring
import MppRouter.Core.Decimal

/-! # Decimal fractions

The rational numbers that decimal strings with a point denote. Digits may be padded with zeros on either side and cut in
two without changing the number, which is what formatters do with them.
-/

namespace Decimal

open List

/-! ## Runs of digits -/

theorem digitsValue_eq_ofDigitChars (digits : List Char) : digitsValue digits = Nat.ofDigitChars 10 digits 0 :=
  Nat.ofDigitChars_eq_foldl.symm

/-- Cutting a run of digits in two. -/
theorem digitsValue_append (front back : List Char) :
    digitsValue (front ++ back) = digitsValue front * 10 ^ back.length + digitsValue back := by
  simp only [digitsValue_eq_ofDigitChars]
  rw [Nat.ofDigitChars_append, Nat.ofDigitChars_eq_ofDigitChars_zero, mul_comm]

@[simp] theorem digitsValue_replicate_zero (count : ℕ) : digitsValue (List.replicate count '0') = 0 := by
  rw [digitsValue_eq_ofDigitChars, Nat.ofDigitChars_replicate_zero, mul_zero]

@[simp] theorem digitsValue_toDigits (value : ℕ) : digitsValue (Nat.toDigits 10 value) = value := by
  rw [digitsValue_eq_ofDigitChars, Nat.ofDigitChars_ten_toDigits]

theorem isDigits_iff {text : List Char} : isDigits text = true ↔ text ≠ [] ∧ ∀ c ∈ text, c.isDigit = true := by
  simp [isDigits]

/-! ## Literals -/

/-- An optionally signed decimal literal, by its digits before and after the point. -/
structure Literal where
  negative : Bool
  whole : List Char
  frac : List Char
  deriving DecidableEq, Repr

/-- The literal that a text matches as a whole: a sign or none, digits, and after a point more digits or no point. -/
def literal (text : List Char) : Option Literal :=
  let negative := text.head? = some '-'
  let unsigned := if negative then text.tail else text
  let whole := unsigned.takeWhile (· ≠ '.')
  match unsigned.dropWhile (· ≠ '.') with
  | [] => if isDigits whole then some ⟨negative, whole, []⟩ else none
  | _ :: frac => if isDigits whole && isDigits frac then some ⟨negative, whole, frac⟩ else none

/-- The number that unsigned digits before and after a point denote. -/
def magnitude (whole frac : List Char) : ℚ := digitsValue whole + digitsValue frac / 10 ^ frac.length

def Literal.value (read : Literal) : ℚ :=
  if read.negative then -magnitude read.whole read.frac else magnitude read.whole read.frac

/-- The text is a literal of the number, with at most so many digits after the point. -/
def Denotes (text : List Char) (number : ℚ) (places : ℕ) : Prop :=
  ∃ read, literal text = some read ∧ read.value = number ∧ read.frac.length ≤ places

theorem Denotes.unique {text : List Char} {number other : ℚ} {places otherPlaces : ℕ} (denotes : Denotes text number places)
    (also : Denotes text other otherPlaces) : number = other := by
  obtain ⟨read, matched, rfl, -⟩ := denotes
  obtain ⟨again, matchedAgain, rfl, -⟩ := also
  rw [Option.some.inj (matched.symm.trans matchedAgain)]

/-- Zeros after the last digit do not change the number. -/
theorem magnitude_append_zeros (whole frac : List Char) (count : ℕ) :
    magnitude whole (frac ++ List.replicate count '0') = magnitude whole frac := by
  unfold magnitude
  rw [digitsValue_append, digitsValue_replicate_zero, length_append, length_replicate, pow_add]
  push_cast
  field_simp
  ring

/-- A run of digits with a point set before its last digits. -/
theorem magnitude_eq_div (whole frac : List Char) :
    magnitude whole frac = (digitsValue (whole ++ frac) : ℚ) / 10 ^ frac.length := by
  unfold magnitude
  rw [digitsValue_append]
  push_cast
  field_simp

theorem ne_of_isDigit {c other : Char} (digit : c.isDigit = true) (not : other.isDigit = false) : c ≠ other := by
  rintro rfl
  rw [digit] at not
  cases not

variable {digits : List Char}

/-- Digits are not taken for a sign. -/
theorem head?_ne_minus (run : isDigits digits = true) : ¬ digits.head? = some '-' := by
  intro same
  have member : '-' ∈ digits := mem_of_head? same
  exact ne_of_isDigit ((isDigits_iff.mp run).2 '-' member) (by decide) rfl

theorem parseInt_of_isDigits (run : isDigits digits = true) : parseInt digits = some (digitsValue digits : ℤ) := by
  have unsigned := head?_ne_minus run
  unfold parseInt
  split
  · exact absurd rfl unsigned
  · rw [parseNat, if_pos run]
    rfl

theorem isSpace_of_isDigit {c : Char} (run : c.isDigit = true) : isSpace c = false := by
  simp only [Char.isDigit, Bool.and_eq_true, decide_eq_true_eq] at run
  obtain ⟨low, high⟩ := run
  have lower : 48 ≤ c.toNat := low
  have upper : c.toNat ≤ 57 := high
  simp only [isSpace, decide_eq_false_iff_not, not_or, not_and, mem_cons, not_mem_nil, or_false]
  omega

/-- A run of digits is what `BigInt` reads of it. -/
theorem bigInt_of_isDigits {text : String} (run : isDigits text.toList = true) :
    bigInt text = some (digitsValue text.toList : ℤ) := by
  have digits := (isDigits_iff.mp run).2
  have read := parseInt_of_isDigits run
  have front : text.toList.dropWhile isSpace = text.toList := by
    apply dropWhile_eq_self_iff.mpr
    intro long
    rw [isSpace_of_isDigit (digits _ (getElem_mem long))]
    exact Bool.false_ne_true
  have back : text.toList.rdropWhile isSpace = text.toList := by
    apply rdropWhile_eq_self_iff.mpr
    intro long
    rw [isSpace_of_isDigit (digits _ (getLast_mem long))]
    exact Bool.false_ne_true
  have other : ∀ c : Char, c.isDigit = false → c ∉ text.toList := by
    intro c not member
    rw [digits c member] at not
    cases not
  unfold bigInt
  rw [front, back]
  generalize text.toList = chars at run other read
  split
  · cases run
  · exact absurd (by simp) (other 'x' (by decide))
  · exact absurd (by simp) (other 'X' (by decide))
  · exact absurd (by simp) (other 'o' (by decide))
  · exact absurd (by simp) (other 'O' (by decide))
  · exact absurd (by simp) (other 'b' (by decide))
  · exact absurd (by simp) (other 'B' (by decide))
  · exact absurd (by simp) (other '+' (by decide))
  · exact read

theorem isDigits_toDigits (value : ℕ) : isDigits (Nat.toDigits 10 value) = true := by
  apply isDigits_iff.mpr
  exact ⟨Nat.toDigits_ne_nil, fun c member => Nat.isDigit_of_mem_toDigits (by decide) (by decide) member⟩

/-- The text of a number is read back as the number. -/
theorem bigInt_toString {value : ℤ} (nonneg : 0 ≤ value) : bigInt (toString value) = some value := by
  obtain ⟨natural, rfl⟩ := Int.eq_ofNat_of_zero_le nonneg
  have text : toString (natural : ℤ) = String.ofList (Nat.toDigits 10 natural) := rfl
  have run : isDigits (String.ofList (Nat.toDigits 10 natural)).toList = true := by
    rw [String.toList_ofList]
    exact isDigits_toDigits natural
  rw [text, bigInt_of_isDigits run, String.toList_ofList, digitsValue_toDigits]

/-- The text of an integer, with its sign, is read back as the integer. -/
theorem parseInt_toString (value : ℤ) : parseInt (toString value).toList = some value := by
  have digits (natural : ℕ) : (toString natural).toList = Nat.toDigits 10 natural := by
    rw [Nat.toString_eq_repr, Nat.toList_repr]
  cases value with
  | ofNat natural =>
    have text : toString (Int.ofNat natural) = toString natural := rfl
    rw [text, digits, parseInt_of_isDigits (isDigits_toDigits natural), digitsValue_toDigits]
    rfl
  | negSucc natural =>
    have text : toString (Int.negSucc natural) = "-" ++ toString (natural + 1) := rfl
    have sign : "-".toList = ['-'] := rfl
    rw [text, String.toList_append, digits, sign, singleton_append, parseInt, parseNat,
      if_pos (isDigits_toDigits _), digitsValue_toDigits]
    rfl

/-- An unsigned run of digits, with or without more after a point, is a literal. -/
theorem literal_whole {whole : List Char} (digits : isDigits whole = true) :
    literal whole = some ⟨false, whole, []⟩ := by
  have unsigned := head?_ne_minus digits
  have pointless : ∀ c ∈ whole, decide (c ≠ '.') = true := fun c member =>
    decide_eq_true (ne_of_isDigit ((isDigits_iff.mp digits).2 c member) (by decide))
  have taken : whole.takeWhile (· ≠ '.') = whole := takeWhile_eq_self_iff.mpr pointless
  have dropped : whole.dropWhile (· ≠ '.') = [] := dropWhile_eq_nil_iff.mpr pointless
  simp only [literal, decide_eq_false unsigned, if_neg unsigned, taken, dropped, digits, if_true]

theorem literal_point {whole frac : List Char} (digits : isDigits whole = true) (more : isDigits frac = true) :
    literal (whole ++ '.' :: frac) = some ⟨false, whole, frac⟩ := by
  have unsigned : ¬ (whole ++ '.' :: frac).head? = some '-' := by
    rw [head?_append_of_ne_nil _ (isDigits_iff.mp digits).1]
    exact head?_ne_minus digits
  have pointless : ∀ c ∈ whole, decide (c ≠ '.') = true := fun c member =>
    decide_eq_true (ne_of_isDigit ((isDigits_iff.mp digits).2 c member) (by decide))
  have taken : (whole ++ '.' :: frac).takeWhile (· ≠ '.') = whole := by
    rw [takeWhile_append_of_pos pointless]
    simp
  have dropped : (whole ++ '.' :: frac).dropWhile (· ≠ '.') = '.' :: frac := by
    rw [dropWhile_append_of_pos pointless]
    simp
  simp only [literal, decide_eq_false unsigned, if_neg unsigned, taken, dropped, digits, more, Bool.and_self, if_true]

/-- A literal is negative where it begins with a sign. -/
theorem literal_negative {text : List Char} {read : Literal} (matched : literal text = some read) :
    read.negative = decide (text.head? = some '-') := by
  simp only [literal] at matched
  generalize (if text.head? = some '-' then text.tail else text) = unsigned at matched
  split at matched
  · split at matched
    · obtain rfl := Option.some.inj matched
      rfl
    · cases matched
  · split at matched
    · obtain rfl := Option.some.inj matched
      rfl
    · cases matched

/-- A sign before an unsigned literal. -/
theorem literal_minus {unsigned whole frac : List Char} (matched : literal unsigned = some ⟨false, whole, frac⟩) :
    literal ('-' :: unsigned) = some ⟨true, whole, frac⟩ := by
  by_cases minus : unsigned.head? = some '-'
  · simp only [literal, minus, decide_true, if_true] at matched
    split at matched
    · split at matched <;> cases matched
    · split at matched <;> cases matched
  · simp only [literal, minus, decide_false, if_false] at matched
    simp only [literal, head?_cons, decide_true, if_true, tail_cons]
    split at matched
    next =>
      split at matched
      next run =>
        cases matched
        simp only [run, if_true]
      next => cases matched
    next =>
      split at matched
      next run =>
        cases matched
        simp only [run, if_true]
      next => cases matched

/-- A number written with a point before its last digits, the zeros at its end left out, and the point with them where
nothing is left. -/
theorem denotes_point {places : ℕ} (isRun : isDigits digits = true) (long : places < digits.length) :
    let whole := digits.take (digits.length - places)
    let frac := (digits.drop (digits.length - places)).rdropWhile (· = '0')
    Denotes (if frac.isEmpty then whole else whole ++ '.' :: frac) (digitsValue digits / 10 ^ places) places := by
  intro whole frac
  have all := (isDigits_iff.mp isRun).2
  have cut : whole ++ digits.drop (digits.length - places) = digits := take_append_drop _ _
  have wholeDigits : isDigits whole = true := by
    refine isDigits_iff.mpr ⟨?_, fun c member => all c (mem_of_mem_take member)⟩
    apply ne_nil_of_length_pos
    rw [length_take]
    omega
  obtain ⟨count, tail⟩ : ∃ count, digits.drop (digits.length - places) = frac ++ List.replicate count '0' := by
    have zeros : ∀ c ∈ (digits.drop (digits.length - places)).rtakeWhile (· = '0'), c = '0' := by
      intro c member
      simpa using mem_rtakeWhile_imp member
    refine ⟨((digits.drop (digits.length - places)).rtakeWhile (· = '0')).length, ?_⟩
    rw [← eq_replicate_of_mem zeros]
    exact rdropWhile_append_rtakeWhile.symm
  have length : frac.length + count = places := by
    have lengths := congrArg List.length tail
    rw [length_drop, length_append, length_replicate] at lengths
    omega
  have value : magnitude whole frac = digitsValue digits / 10 ^ places := by
    rw [← magnitude_append_zeros whole frac count, magnitude_eq_div, ← tail, cut, tail, length_append,
      length_replicate, length]
  have fracDigits : ∀ c ∈ frac, c.isDigit = true := by
    intro c member
    apply all c
    rw [← cut, tail]
    exact mem_append_right _ (mem_append_left _ member)
  by_cases empty : frac = []
  · have none : frac.isEmpty = true := by rw [empty]; rfl
    rw [if_pos none]
    refine ⟨⟨false, whole, []⟩, literal_whole wholeDigits, ?_, Nat.zero_le _⟩
    rw [← value, empty]
    rfl
  · have some : ¬ frac.isEmpty = true := by rwa [List.isEmpty_iff]
    rw [if_neg some]
    have isFrac : isDigits frac = true := isDigits_iff.mpr ⟨empty, fracDigits⟩
    exact ⟨⟨false, whole, frac⟩, literal_point wholeDigits isFrac, value, Nat.le.intro length⟩

end Decimal
