import MppRouter.Core.DecimalFraction

/-! # The money codec of the playground

Amounts are 7-decimal atomic integers. Prices, responses and Horizon write them as decimal strings, Tempo as 6-decimal
integers. The formatters pad and trim zeros, which changes no number, so both parsers find the integer that was written.
-/

namespace MppRouter.Playground

open Decimal List Option

/-! ## The functions -/

def USDC_DECIMALS : ℕ := 7

def ONE_USDC : ℕ := 10000000

/-- `text.trim()`. -/
def trim (text : String) : List Char := (text.toList.dropWhile isSpace).rdropWhile isSpace

def padStart (length : ℕ) (text : List Char) : List Char := replicate (length - text.length) '0' ++ text

def padEnd (length : ℕ) (text : List Char) : List Char := text ++ replicate (length - text.length) '0'

/-- The `RangeError` of a malformed amount in dollars, with the string its message quotes. -/
inductive UsdError where
  | invalid (input : String)
  | tooManyDecimals (input : String)
  deriving DecidableEq, Repr

/-- The integer of a literal's digits, the ones after the point filled up. -/
def atomicOf (whole frac : List Char) : ℤ := digitsValue whole * ONE_USDC + digitsValue (padEnd USDC_DECIMALS frac)

/-- Parse a decimal string of dollars; `literal` is what `DECIMAL_RE` matches. -/
def parseUsd (input : String) : Except UsdError ℤ :=
  match literal (trim input) with
  | none => .error (.invalid input)
  | some read =>
    if read.frac.length > USDC_DECIMALS then .error (.tooManyDecimals input)
    else if read.negative then .ok (-atomicOf read.whole read.frac)
    else .ok (atomicOf read.whole read.frac)

/-- Render atomic units with all seven decimals. -/
def formatUsdc7 (atomic : ℤ) : String :=
  let negative := atomic < 0
  let abs := atomic.natAbs
  let whole := Nat.toDigits 10 (abs / ONE_USDC)
  let frac := padStart USDC_DECIMALS (Nat.toDigits 10 (abs % ONE_USDC))
  String.ofList ((if negative then ['-'] else []) ++ (whole ++ '.' :: frac))

/-- Render atomic units with the zeros at the end left out, but two decimals at least. -/
def formatUsd (atomic : ℤ) : String :=
  let fixed := (formatUsdc7 atomic).toList
  let whole := fixed.takeWhile (· ≠ '.')
  let frac := (fixed.dropWhile (· ≠ '.')).tail
  let trimmed := frac.rdropWhile (· = '0')
  let padded := if trimmed.length < 2 then padEnd 2 trimmed else trimmed
  String.ofList (whole ++ '.' :: padded)

/-- Convert to the base units of Tempo, as text; the division truncates. -/
def toTempoRaw6 (atomic7 : ℤ) : String := toString (atomic7.tdiv 10)

/-- Read an amount as Horizon writes it: digits, and after a point one to seven more. -/
def horizonAmountToAtomic (amount : String) : Option ℤ :=
  match literal (trim amount) with
  | some ⟨false, whole, []⟩ => some (digitsValue whole * ONE_USDC)
  | some ⟨false, whole, frac⟩ => if frac.length ≤ USDC_DECIMALS then some (atomicOf whole frac) else none
  | _ => none

example : formatUsd (-5) = "-0.0000005" ∧ formatUsd 10000000 = "1.00" ∧ parseUsd "-0.0000005" = .ok (-5) := by
  decide +kernel

/-! ## Parsing is exact -/

theorem magnitude_padEnd (whole frac : List Char) (length : ℕ) :
    magnitude whole (padEnd length frac) = magnitude whole frac := magnitude_append_zeros whole frac _

/-- The filled-up digits are the number in atomic units. -/
theorem atomicOf_eq (whole : List Char) {frac : List Char} (short : frac.length ≤ USDC_DECIMALS) :
    (atomicOf whole frac : ℚ) / ONE_USDC = magnitude whole frac := by
  have seven : (padEnd USDC_DECIMALS frac).length = 7 := by
    simp only [padEnd, USDC_DECIMALS, length_append, length_replicate] at short ⊢
    omega
  rw [← magnitude_padEnd whole frac USDC_DECIMALS]
  unfold magnitude atomicOf
  rw [seven]
  norm_num [ONE_USDC]
  ring

/-- What an accepted literal is worth. -/
def readAtomic (read : Literal) : ℤ :=
  if read.negative then -atomicOf read.whole read.frac else atomicOf read.whole read.frac

theorem value_of_atomic {read : Literal} (short : read.frac.length ≤ USDC_DECIMALS) :
    (readAtomic read : ℚ) / ONE_USDC = read.value := by
  unfold readAtomic Literal.value
  have exact := atomicOf_eq read.whole short
  split
  · push_cast
    rw [neg_div, exact]
  · exact exact

theorem parseUsd_cases (input : String) (atomic : ℤ) : parseUsd input = .ok atomic ↔
    ∃ read, literal (trim input) = some read ∧ read.frac.length ≤ USDC_DECIMALS ∧ readAtomic read = atomic := by
  unfold parseUsd
  cases literal (trim input) with
  | none => simp
  | some read =>
    by_cases long : read.frac.length > USDC_DECIMALS
    · simp only [if_pos long, some.injEq]
      constructor
      · intro threw
        cases threw
      · rintro ⟨_, rfl, short, _⟩
        omega
    · simp only [if_neg long, some.injEq, exists_eq_left']
      have short : read.frac.length ≤ USDC_DECIMALS := by omega
      unfold readAtomic
      split <;> simp [short]

/-- A string is accepted exactly where it denotes a number with at most seven decimals, and never rounded. -/
theorem parseUsd_iff (input : String) (atomic : ℤ) :
    parseUsd input = .ok atomic ↔ Denotes (trim input) (atomic / ONE_USDC) USDC_DECIMALS := by
  rw [parseUsd_cases]
  constructor
  · rintro ⟨read, matched, short, rfl⟩
    exact ⟨read, matched, (value_of_atomic short).symm, short⟩
  · rintro ⟨read, matched, value, short⟩
    refine ⟨read, matched, short, ?_⟩
    rw [← value_of_atomic short] at value
    have positive : (ONE_USDC : ℚ) ≠ 0 := by norm_num [ONE_USDC]
    exact_mod_cast (div_left_inj' positive).mp value

/-! ## What the formatters write -/

/-- A text of digits, a sign and a point is not trimmed. -/
theorem trim_eq {text : List Char} (plain : ∀ c ∈ text, isSpace c = false) : trim (String.ofList text) = text := by
  have front : text.dropWhile isSpace = text := by
    apply dropWhile_eq_self_iff.mpr
    intro long
    rw [plain _ (getElem_mem long)]
    exact Bool.false_ne_true
  have back : text.rdropWhile isSpace = text := by
    apply rdropWhile_eq_self_iff.mpr
    intro long
    rw [plain _ (getLast_mem long)]
    exact Bool.false_ne_true
  rw [trim, String.toList_ofList, front, back]

/-- The digits of an amount, before and after the point, with a sign. -/
def signed (negative : Bool) (whole frac : List Char) : List Char :=
  (if negative then ['-'] else []) ++ (whole ++ '.' :: frac)

section Signed

variable {whole frac : List Char} (wholeDigits : isDigits whole = true) (fracDigits : isDigits frac = true)
include wholeDigits fracDigits

theorem literal_signed (negative : Bool) : literal (signed negative whole frac) = some ⟨negative, whole, frac⟩ := by
  have unsigned := literal_point wholeDigits fracDigits
  cases negative with
  | false => exact unsigned
  | true => exact literal_minus unsigned

theorem signed_plain (negative : Bool) : ∀ c ∈ signed negative whole frac, isSpace c = false := by
  intro c member
  have sign : c ∈ (if negative then ['-'] else []) → isSpace c = false := by
    cases negative with
    | false => simp
    | true =>
      intro minus
      obtain rfl := mem_singleton.mp minus
      decide
  rcases mem_append.mp member with minus | rest
  · exact sign minus
  · rcases mem_append.mp rest with digit | rest
    · exact isSpace_of_isDigit ((isDigits_iff.mp wholeDigits).2 c digit)
    · rcases mem_cons.mp rest with rfl | digit
      · decide
      · exact isSpace_of_isDigit ((isDigits_iff.mp fracDigits).2 c digit)

/-- The number that signed digits are, and its places. -/
theorem signed_denotes (negative : Bool) {atomic : ℤ} (negativity : negative = decide (atomic < 0))
    (short : frac.length ≤ USDC_DECIMALS) (abs : magnitude whole frac = (atomic.natAbs : ℚ) / ONE_USDC) :
    Denotes (signed negative whole frac) (atomic / ONE_USDC) USDC_DECIMALS := by
  refine ⟨_, literal_signed wholeDigits fracDigits negative, ?_, short⟩
  unfold Literal.value
  rw [abs]
  have cast : ((atomic.natAbs : ℤ) : ℚ) = (atomic.natAbs : ℚ) := Int.cast_natCast _
  rw [← cast]
  by_cases below : atomic < 0
  · rw [decide_eq_true below] at negativity
    rw [if_pos negativity, Int.ofNat_natAbs_of_nonpos below.le]
    push_cast
    ring
  · rw [decide_eq_false below] at negativity
    rw [negativity, if_neg Bool.false_ne_true, Int.natAbs_of_nonneg (not_lt.mp below)]

end Signed

section Format

variable (atomic : ℤ)

/-- The digits before the point. -/
def wholeDigits : List Char := Nat.toDigits 10 (atomic.natAbs / ONE_USDC)

/-- The digits after the point, filled up at the front. -/
def fracDigits : List Char := padStart USDC_DECIMALS (Nat.toDigits 10 (atomic.natAbs % ONE_USDC))

theorem formatUsdc7_eq :
    formatUsdc7 atomic = String.ofList (signed (atomic < 0) (wholeDigits atomic) (fracDigits atomic)) := by
  simp only [formatUsdc7, signed, wholeDigits, fracDigits, decide_eq_true_eq]

theorem isDigits_wholeDigits : isDigits (wholeDigits atomic) = true := isDigits_toDigits _

theorem length_fracDigits : (fracDigits atomic).length = 7 := by
  have below : atomic.natAbs % ONE_USDC < 10 ^ 7 := Nat.mod_lt _ (by decide)
  have short : (Nat.toDigits 10 (atomic.natAbs % ONE_USDC)).length ≤ 7 :=
    (Nat.length_toDigits_le_iff (by decide) (by decide)).mpr below
  simp only [fracDigits, padStart, USDC_DECIMALS, length_append, length_replicate]
  omega

theorem isDigits_fracDigits : isDigits (fracDigits atomic) = true := by
  apply isDigits_iff.mpr
  constructor
  · apply ne_nil_of_length_pos
    rw [length_fracDigits]
    decide
  · intro c member
    rcases mem_append.mp member with zero | digit
    · rw [eq_of_mem_replicate zero]
      rfl
    · exact (isDigits_iff.mp (isDigits_toDigits _)).2 c digit

theorem magnitude_digits : magnitude (wholeDigits atomic) (fracDigits atomic) = (atomic.natAbs : ℚ) / ONE_USDC := by
  have value : digitsValue (wholeDigits atomic ++ fracDigits atomic) = atomic.natAbs := by
    rw [digitsValue_append, length_fracDigits]
    simp only [wholeDigits, fracDigits, padStart, digitsValue_append, digitsValue_replicate_zero, digitsValue_toDigits,
      Nat.zero_mul, Nat.zero_add]
    exact Nat.div_add_mod' atomic.natAbs ONE_USDC
  rw [magnitude_eq_div, value, length_fracDigits]
  norm_num [ONE_USDC]

/-- The full text is the amount. -/
theorem formatUsdc7_denotes : Denotes (trim (formatUsdc7 atomic)) (atomic / ONE_USDC) USDC_DECIMALS := by
  rw [formatUsdc7_eq, trim_eq (signed_plain (isDigits_wholeDigits atomic) (isDigits_fracDigits atomic) _)]
  apply signed_denotes (isDigits_wholeDigits atomic) (isDigits_fracDigits atomic) _ rfl
  · exact (length_fracDigits atomic).le
  · exact magnitude_digits atomic

/-- The digits that stay after the point. -/
def shortDigits : List Char :=
  let trimmed := (fracDigits atomic).rdropWhile (· = '0')
  if trimmed.length < 2 then padEnd 2 trimmed else trimmed

/-- Zeros are left out at the end, and at most some of them are filled in again. -/
theorem shortDigits_zeros : ∃ count, fracDigits atomic = shortDigits atomic ++ replicate count '0' := by
  have seven := length_fracDigits atomic
  have zeros : ∀ c ∈ (fracDigits atomic).rtakeWhile (· = '0'), c = '0' := by
    intro c member
    simpa using mem_rtakeWhile_imp member
  have cut : (fracDigits atomic).rdropWhile (· = '0') ++ (fracDigits atomic).rtakeWhile (· = '0') = fracDigits atomic :=
    rdropWhile_append_rtakeWhile
  rw [eq_replicate_of_mem zeros] at cut
  unfold shortDigits
  generalize (fracDigits atomic).rdropWhile (· = '0') = trimmed at cut ⊢
  generalize ((fracDigits atomic).rtakeWhile (· = '0')).length = count at cut
  have length : trimmed.length + count = 7 := by
    have lengths := congrArg length cut
    rw [length_append, length_replicate, seven] at lengths
    exact lengths
  dsimp only
  split
  next short =>
    refine ⟨count - (2 - trimmed.length), ?_⟩
    rw [padEnd, append_assoc, replicate_append_replicate, ← cut]
    congr 2
    omega
  next => exact ⟨count, cut.symm⟩

theorem shortDigits_nonempty : shortDigits atomic ≠ [] := by
  apply ne_nil_of_length_pos
  unfold shortDigits
  dsimp only
  split
  · simp only [padEnd, length_append, length_replicate]
    omega
  · omega

theorem isDigits_shortDigits : isDigits (shortDigits atomic) = true := by
  obtain ⟨count, zeros⟩ := shortDigits_zeros atomic
  refine isDigits_iff.mpr ⟨shortDigits_nonempty atomic, fun c member => ?_⟩
  apply (isDigits_iff.mp (isDigits_fracDigits atomic)).2 c
  rw [zeros]
  exact mem_append_left _ member

theorem formatUsd_eq :
    formatUsd atomic = String.ofList (signed (atomic < 0) (wholeDigits atomic) (shortDigits atomic)) := by
  have pointless : ∀ c ∈ (if decide (atomic < 0) = true then ['-'] else []) ++ wholeDigits atomic, decide (c ≠ '.') = true := by
    intro c member
    rcases mem_append.mp member with minus | digit
    · split at minus
      · obtain rfl := mem_singleton.mp minus
        decide
      · cases minus
    · exact decide_eq_true (ne_of_isDigit ((isDigits_iff.mp (isDigits_wholeDigits atomic)).2 c digit) (by decide))
  have text : (formatUsdc7 atomic).toList =
      ((if decide (atomic < 0) = true then ['-'] else []) ++ wholeDigits atomic) ++ '.' :: fracDigits atomic := by
    rw [formatUsdc7_eq, String.toList_ofList, signed, append_assoc]
  have taken : (formatUsdc7 atomic).toList.takeWhile (· ≠ '.') =
      (if decide (atomic < 0) = true then ['-'] else []) ++ wholeDigits atomic := by
    rw [text, takeWhile_append_of_pos pointless]
    simp
  have dropped : ((formatUsdc7 atomic).toList.dropWhile (· ≠ '.')).tail = fracDigits atomic := by
    rw [text, dropWhile_append_of_pos pointless]
    simp
  simp only [formatUsd, taken, dropped, signed, shortDigits, append_assoc]

/-- The short text is the amount too. -/
theorem formatUsd_denotes : Denotes (trim (formatUsd atomic)) (atomic / ONE_USDC) USDC_DECIMALS := by
  obtain ⟨count, zeros⟩ := shortDigits_zeros atomic
  rw [formatUsd_eq, trim_eq (signed_plain (isDigits_wholeDigits atomic) (isDigits_shortDigits atomic) _)]
  apply signed_denotes (isDigits_wholeDigits atomic) (isDigits_shortDigits atomic) _ rfl
  · have lengths := congrArg length zeros
    rw [length_fracDigits, length_append] at lengths
    unfold USDC_DECIMALS
    omega
  · rw [← magnitude_digits, zeros, magnitude_append_zeros]

end Format

/-! ## Horizon and Tempo -/

theorem atomicOf_nil (whole : List Char) : atomicOf whole [] = digitsValue whole * ONE_USDC := by
  simp only [atomicOf, padEnd, nil_append, digitsValue_replicate_zero, Nat.cast_zero, add_zero]

theorem horizonAmountToAtomic_cases (amount : String) (atomic : ℤ) : horizonAmountToAtomic amount = some atomic ↔
    ∃ read, literal (trim amount) = some read ∧ read.negative = false ∧ read.frac.length ≤ USDC_DECIMALS ∧
      atomicOf read.whole read.frac = atomic := by
  unfold horizonAmountToAtomic
  split
  next whole matched =>
    rw [matched]
    simp only [some.injEq, exists_eq_left', length_nil, Nat.zero_le, true_and, atomicOf_nil]
  next whole frac _ matched =>
    rw [matched]
    by_cases short : frac.length ≤ USDC_DECIMALS
    · rw [if_pos short]
      simp only [some.injEq, exists_eq_left', short, true_and]
    · simp [short]
  next unmatched =>
    constructor
    · intro accepted
      cases accepted
    · rintro ⟨⟨negative, whole, frac⟩, matched, rfl, -⟩
      exact absurd matched (unmatched whole frac)

/-- Horizon's amounts are read exactly, and only unsigned. -/
theorem horizonAmountToAtomic_iff (amount : String) (atomic : ℤ) : horizonAmountToAtomic amount = some atomic ↔
    (trim amount).head? ≠ some '-' ∧ Denotes (trim amount) (atomic / ONE_USDC) USDC_DECIMALS := by
  rw [horizonAmountToAtomic_cases, ← parseUsd_iff, parseUsd_cases]
  constructor
  · rintro ⟨read, matched, unsigned, short, exact⟩
    refine ⟨?_, read, matched, short, ?_⟩
    · rw [literal_negative matched] at unsigned
      exact of_decide_eq_false unsigned
    · rwa [readAtomic, if_neg (by rw [unsigned]; exact Bool.false_ne_true)]
  · rintro ⟨unsigned, read, matched, short, exact⟩
    have positive : read.negative = false := (literal_negative matched).trans (decide_eq_false unsigned)
    refine ⟨read, matched, positive, short, ?_⟩
    rwa [readAtomic, if_neg (by rw [positive]; exact Bool.false_ne_true)] at exact

/-- An amount that is not negative is written without a sign. -/
theorem formatUsdc7_unsigned {atomic : ℤ} (nonneg : 0 ≤ atomic) : (trim (formatUsdc7 atomic)).head? ≠ some '-' := by
  have matched := literal_signed (isDigits_wholeDigits atomic) (isDigits_fracDigits atomic) (decide (atomic < 0))
  have unsigned := literal_negative matched
  rw [formatUsdc7_eq, trim_eq (signed_plain (isDigits_wholeDigits atomic) (isDigits_fracDigits atomic) _)]
  rw [decide_eq_false (not_lt.mpr nonneg)] at unsigned ⊢
  exact of_decide_eq_false unsigned.symm

/-- Truncation rounds an amount that is not negative down. -/
theorem toTempoRaw6_le {atomic : ℤ} (nonneg : 0 ≤ atomic) :
    ∃ raw6, bigInt (toTempoRaw6 atomic) = some raw6 ∧ 10 * raw6 ≤ atomic ∧ atomic < 10 * raw6 + 10 := by
  have quotient : atomic.tdiv 10 = atomic / 10 := Int.tdiv_eq_ediv_of_nonneg nonneg
  refine ⟨atomic / 10, ?_, by omega, by omega⟩
  rw [toTempoRaw6, quotient]
  exact bigInt_toString (by omega)

/-- The texts of both formatters are read back as the amounts they were made of, both parsers accept exactly the
literals with at most seven decimals and find their numbers, and no amount gains by its conversion to Tempo's units. -/
theorem money_round_trips :
    (∀ atomic, parseUsd (formatUsdc7 atomic) = .ok atomic) ∧
    (∀ atomic, parseUsd (formatUsd atomic) = .ok atomic) ∧
    (∀ atomic, 0 ≤ atomic → horizonAmountToAtomic (formatUsdc7 atomic) = some atomic) ∧
    (∀ input atomic, parseUsd input = .ok atomic ↔ Denotes (trim input) (atomic / ONE_USDC) USDC_DECIMALS) ∧
    (∀ input, (∃ atomic, parseUsd input = .ok atomic) ↔
      ∃ read, literal (trim input) = some read ∧ read.frac.length ≤ USDC_DECIMALS) ∧
    (∀ amount atomic, horizonAmountToAtomic amount = some atomic ↔
      (trim amount).head? ≠ some '-' ∧ Denotes (trim amount) (atomic / ONE_USDC) USDC_DECIMALS) ∧
    ∀ atomic, 0 ≤ atomic → ∃ raw6, bigInt (toTempoRaw6 atomic) = some raw6 ∧ 10 * raw6 ≤ atomic := by
  refine ⟨?_, ?_, ?_, parseUsd_iff, ?_, horizonAmountToAtomic_iff, ?_⟩
  · intro atomic
    exact (parseUsd_iff _ _).mpr (formatUsdc7_denotes atomic)
  · intro atomic
    exact (parseUsd_iff _ _).mpr (formatUsd_denotes atomic)
  · intro atomic nonneg
    exact (horizonAmountToAtomic_iff _ _).mpr ⟨formatUsdc7_unsigned nonneg, formatUsdc7_denotes atomic⟩
  · intro input
    constructor
    · rintro ⟨atomic, accepted⟩
      obtain ⟨read, matched, short, -⟩ := (parseUsd_cases input atomic).mp accepted
      exact ⟨read, matched, short⟩
    · rintro ⟨read, matched, short⟩
      exact ⟨readAtomic read, (parseUsd_cases input _).mpr ⟨read, matched, short, rfl⟩⟩
  · intro atomic nonneg
    obtain ⟨raw6, read, below, -⟩ := toTempoRaw6_le nonneg
    exact ⟨raw6, read, below⟩

/-- A negative amount gains: it is truncated towards zero. -/
theorem tempo_exceeds_negative : ∃ atomic raw6 : ℤ, bigInt (toTempoRaw6 atomic) = some raw6 ∧ atomic < 10 * raw6 :=
  ⟨-15, -1, by decide⟩

end MppRouter.Playground
