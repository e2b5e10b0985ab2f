import Mathlib.Data.Rat.Floor
import MppRouter.Core.DecimalFraction

/-! # Amounts of XLM for amounts of USDC

`convertUsdcToXlm` divides an amount by a rate, in whole stroops and rounding up. The rate is itself rounded to nine
decimals before, to the nearest, so the result is exact only where the rounding passes no price of a whole number of
stroops across the amount.
-/

namespace MppRouter.Proxy

open Decimal List

/-! ## The functions -/

/-- An `Error` of one of the two functions, with the value its message quotes. -/
inductive ConvertError where
  | badRate (rate : ℚ)
  | notDecimal (usdcAmount : String)
  | tooManyDigits (usdcAmount : String)
  | underflow (rate : ℚ)
  | notInteger (amount : String)
  | badDecimals (decimals : ℤ)
  deriving DecidableEq, Repr

def STELLAR_DECIMALS : ℕ := 7

def RATE_SCALE : ℕ := 1000000000

/-- Rounding to the nearest integer, and up where two are as near. -/
def mathRound (x : ℚ) : ℤ := ⌊x + 1 / 2⌋

def padStart (length : ℕ) (text : List Char) : List Char := List.replicate (length - text.length) '0' ++ text

def padEnd (length : ℕ) (text : List Char) : List Char := text ++ List.replicate (length - text.length) '0'

/-- Put the point into an integer string, and drop the zeros at the end. -/
def baseUnitsToDecimalString (amount : List Char) (decimals : ℤ) : Except ConvertError (List Char) :=
  if (parseInt amount).isNone then .error (.notInteger (String.ofList amount))
  else if decimals < 0 then .error (.badDecimals decimals)
  else
    let negative := amount.head? = some '-'
    let digits := if negative then amount.tail else amount
    let sign := if negative then ['-'] else []
    if decimals = 0 then .ok (sign ++ digits)
    else
      let decimals := decimals.toNat
      let padded := padStart (decimals + 1) digits
      let whole := padded.take (padded.length - decimals)
      let frac := (padded.drop (padded.length - decimals)).rdropWhile (· = '0')
      let body := if frac.isEmpty then whole else whole ++ '.' :: frac
      .ok (sign ++ body)

/-- The amount of XLM to charge for an amount of USDC at a rate in USD per XLM. -/
def convertUsdcToXlm (usdcAmount : String) (rate : ℚ) : Except ConvertError String :=
  if rate ≤ 0 then .error (.badRate rate)
  else match literal usdcAmount.toList with
    | none => .error (.notDecimal usdcAmount)
    | some ⟨negative, intPart, fracPart⟩ =>
      if fracPart.length > STELLAR_DECIMALS then .error (.tooManyDigits usdcAmount)
      else
        let fracPart := padEnd STELLAR_DECIMALS fracPart
        let usdcBaseUnits : ℤ := digitsValue intPart * 10 ^ STELLAR_DECIMALS + digitsValue fracPart
        if usdcBaseUnits = 0 then .ok "0"
        else
          let rateScaled := mathRound (rate * RATE_SCALE)
          if rateScaled ≤ 0 then .error (.underflow rate)
          else
            let numerator := usdcBaseUnits * RATE_SCALE
            let quotient := numerator.tdiv rateScaled
            let xlmBaseUnits := if numerator.tmod rateScaled ≠ 0 then quotient + 1 else quotient
            (baseUnitsToDecimalString (toString xlmBaseUnits).toList STELLAR_DECIMALS).map fun result =>
              String.ofList (if negative then '-' :: result else result)

example : convertUsdcToXlm "0.00075" (11 / 100) = .ok "0.0068182" := by decide +kernel

/-! ## The formatter -/

theorem toList_toString_natCast (amount : ℕ) : (toString (amount : ℤ)).toList = Nat.toDigits 10 amount := by
  rw [Int.toString_eq_repr, Int.repr_eq_if, if_pos (Int.natCast_nonneg amount), Int.toNat_natCast, Nat.toList_repr]

/-- An amount of base units is written as the number it is, with no more digits after the point than asked for. -/
theorem baseUnitsToDecimalString_denotes (amount decimals : ℕ) (places : 0 < decimals) :
    ∃ text, baseUnitsToDecimalString (Nat.toDigits 10 amount) decimals = .ok text ∧
      Denotes text ((amount : ℚ) / 10 ^ decimals) decimals := by
  have run := isDigits_toDigits amount
  have unsigned := head?_ne_minus run
  have integer : (parseInt (Nat.toDigits 10 amount)).isNone = false := by
    rw [parseInt_of_isDigits run]
    rfl
  let padded := padStart (decimals + 1) (Nat.toDigits 10 amount)
  have long : decimals < padded.length := by
    simp only [padded, padStart, length_append, length_replicate]
    omega
  have paddedRun : isDigits padded = true := by
    refine isDigits_iff.mpr ⟨ne_nil_of_length_pos (by omega), fun c member => ?_⟩
    rcases mem_append.mp member with zero | digit
    · rw [eq_of_mem_replicate zero]
      rfl
    · exact (isDigits_iff.mp run).2 c digit
  have value : digitsValue padded = amount := by
    simp only [padded, padStart, digitsValue_append, digitsValue_replicate_zero, digitsValue_toDigits]
    omega
  have denotes := denotes_point paddedRun long
  rw [value] at denotes
  refine ⟨_, ?_, denotes⟩
  have positive : ¬ (decimals : ℤ) < 0 := by omega
  have nonzero : ¬ (decimals : ℤ) = 0 := by omega
  simp only [baseUnitsToDecimalString, integer, Bool.false_eq_true, if_false, if_neg unsigned, if_neg positive, if_neg nonzero, Int.toNat_natCast]
  rfl

/-! ## The division -/

/-- Division rounding up yields the least multiplier that reaches the numerator. -/
theorem ceilDiv_le_iff {numerator divisor : ℤ} (nonneg : 0 ≤ numerator) (positive : 0 < divisor) (n : ℤ) :
    (if numerator.tmod divisor ≠ 0 then numerator.tdiv divisor + 1 else numerator.tdiv divisor) ≤ n ↔
      numerator ≤ n * divisor := by
  rw [Int.tmod_eq_emod_of_nonneg nonneg, Int.tdiv_eq_ediv_of_nonneg nonneg]
  have parts := Int.mul_ediv_add_emod numerator divisor
  split_ifs with rest
  · rw [Int.add_one_le_iff, Int.ediv_lt_iff_lt_mul positive]
    constructor
    · exact le_of_lt
    · intro reaches
      apply lt_of_le_of_ne reaches
      rintro same
      rw [same] at rest
      exact rest (Int.mul_emod_left n divisor)
  · rw [not_not] at rest
    rw [rest, Int.add_zero] at parts
    nth_rewrite 2 [← parts]
    rw [Int.mul_comm n divisor]
    exact (mul_le_mul_iff_of_pos_left positive).symm

/-- A number of units is worth the amount and one less is not, exactly when it is the least that is. -/
theorem least_worth_iff {amount price : ℚ} {units : ℕ} (positive : 0 < price) (some : 0 < units) :
    (amount ≤ units * price ∧ (units - 1) * price < amount) ↔ ∀ n : ℕ, amount ≤ n * price ↔ units ≤ n := by
  constructor
  · rintro ⟨enough, tight⟩ n
    constructor
    · intro worth
      by_contra fewer
      have below : (n : ℚ) ≤ units - 1 := by
        have whole : n + 1 ≤ units := by omega
        have cast : ((n + 1 : ℕ) : ℚ) ≤ units := Nat.cast_le.mpr whole
        push_cast at cast
        linarith
      have cheaper := mul_le_mul_of_nonneg_right below positive.le
      linarith
    · intro more
      have cast : (units : ℚ) ≤ n := Nat.cast_le.mpr more
      exact enough.trans (mul_le_mul_of_nonneg_right cast positive.le)
  · intro least
    refine ⟨(least units).mpr le_rfl, ?_⟩
    have one := (least (units - 1)).not.mpr (by omega)
    rw [not_le] at one
    have cast : ((units - 1 : ℕ) : ℚ) = units - 1 := by
      rw [Nat.cast_sub some, Nat.cast_one]
    rwa [cast] at one

/-! ## The conversion -/

/-- The amount of a literal in base units, as the conversion reads it. -/
def Literal.baseUnits (read : Literal) : ℕ :=
  digitsValue read.whole * 10 ^ STELLAR_DECIMALS + digitsValue (padEnd STELLAR_DECIMALS read.frac)

theorem magnitude_eq_baseUnits {read : Literal} (few : read.frac.length ≤ STELLAR_DECIMALS) :
    magnitude read.whole read.frac = (Literal.baseUnits read : ℚ) / 10 ^ STELLAR_DECIMALS := by
  have length : (padEnd STELLAR_DECIMALS read.frac).length = STELLAR_DECIMALS := by
    simp only [padEnd, length_append, length_replicate]
    omega
  rw [← magnitude_append_zeros read.whole read.frac (STELLAR_DECIMALS - read.frac.length)]
  change magnitude read.whole (padEnd STELLAR_DECIMALS read.frac) = _
  rw [magnitude_eq_div, digitsValue_append, length]
  rfl

/-- What a conversion that does not throw has computed: nothing for no amount, and else the least number of stroops
that is worth the amount at the scaled rate. -/
theorem convertUsdcToXlm_cases {usdcAmount xlmAmount : String} {rate : ℚ}
    (converted : convertUsdcToXlm usdcAmount rate = .ok xlmAmount) :
    0 < rate ∧ ∃ read, literal usdcAmount.toList = some read ∧ read.frac.length ≤ STELLAR_DECIMALS ∧
      (Literal.baseUnits read = 0 ∧ xlmAmount = "0" ∨
        0 < Literal.baseUnits read ∧ 0 < mathRound (rate * RATE_SCALE) ∧ ∃ stroops : ℕ,
          (∀ n : ℕ, stroops ≤ n ↔ (Literal.baseUnits read * RATE_SCALE : ℤ) ≤ n * mathRound (rate * RATE_SCALE)) ∧
          ∃ text, Denotes text ((stroops : ℚ) / 10 ^ STELLAR_DECIMALS) STELLAR_DECIMALS ∧
            xlmAmount = String.ofList (if read.negative then '-' :: text else text)) := by
  unfold convertUsdcToXlm at converted
  split at converted
  · cases converted
  next positive =>
    refine ⟨not_le.mp positive, ?_⟩
    split at converted
    · cases converted
    next negative intPart fracPart matched =>
      split at converted
      · cases converted
      next few =>
        refine ⟨⟨negative, intPart, fracPart⟩, matched, not_lt.mp few, ?_⟩
        have units : (digitsValue intPart * 10 ^ STELLAR_DECIMALS + digitsValue (padEnd STELLAR_DECIMALS fracPart) : ℤ) =
            (Literal.baseUnits ⟨negative, intPart, fracPart⟩ : ℕ) := by
          simp only [Literal.baseUnits]
          push_cast
          rfl
        simp only [units] at converted
        generalize Literal.baseUnits ⟨negative, intPart, fracPart⟩ = amount at converted ⊢
        split at converted
        next zero =>
          cases converted
          exact .inl ⟨Int.natCast_eq_zero.mp zero, rfl⟩
        next nonzero =>
          split at converted
          · cases converted
          next scaled =>
            rw [not_le] at scaled
            have nonneg : (0 : ℤ) ≤ amount * RATE_SCALE :=
              Int.mul_nonneg (Int.natCast_nonneg _) (Int.natCast_nonneg _)
            have least := ceilDiv_le_iff nonneg scaled
            generalize (if (amount * RATE_SCALE : ℤ).tmod (mathRound (rate * RATE_SCALE)) ≠ 0 then
              (amount * RATE_SCALE : ℤ).tdiv (mathRound (rate * RATE_SCALE)) + 1
              else (amount * RATE_SCALE : ℤ).tdiv (mathRound (rate * RATE_SCALE))) = quotient at converted least
            have some : 0 ≤ quotient := by
              by_contra negative
              have reached := (least (-1)).mp (by omega)
              omega
            obtain ⟨stroops, rfl⟩ := Int.eq_ofNat_of_zero_le some
            obtain ⟨text, written, denotes⟩ := baseUnitsToDecimalString_denotes stroops STELLAR_DECIMALS (by decide)
            rw [toList_toString_natCast, written] at converted
            cases converted
            refine .inr ⟨Nat.pos_of_ne_zero fun same => nonzero (by rw [same]; rfl), scaled, stroops, fun n => ?_,
              text, denotes, rfl⟩
            rw [← least n]
            exact Int.ofNat_le.symm

/-- What so many stroops of XLM are worth at a rate. -/
def worth (rate : ℚ) (stroops : ℕ) : ℚ := stroops / 10 ^ STELLAR_DECIMALS * rate

/-- The rate that the conversion divides by. -/
def roundedRate (rate : ℚ) : ℚ := mathRound (rate * RATE_SCALE) / RATE_SCALE

/-- No number of stroops is worth the amount at one of the two rates and less at the other. -/
def SamePrices (amount rate : ℚ) : Prop := ∀ stroops, amount ≤ worth rate stroops ↔ amount ≤ worth (roundedRate rate) stroops

theorem samePrices_of_roundedRate {amount rate : ℚ} (exact : roundedRate rate = rate) : SamePrices amount rate := by
  intro stroops
  rw [exact]

theorem le_worth_iff (amount stroops : ℕ) (rate : ℚ) :
    (amount : ℚ) / 10 ^ STELLAR_DECIMALS ≤ worth rate stroops ↔ (amount : ℚ) ≤ stroops * rate := by
  have scale : (0 : ℚ) < 10 ^ STELLAR_DECIMALS := by positivity
  rw [worth, div_mul_eq_mul_div, div_le_div_iff_of_pos_right scale]

theorem le_mul_roundedRate_iff (amount stroops : ℕ) (rate : ℚ) :
    (amount : ℚ) ≤ stroops * roundedRate rate ↔
      (amount * RATE_SCALE : ℤ) ≤ stroops * mathRound (rate * RATE_SCALE) := by
  have scale : (0 : ℚ) < RATE_SCALE := by
    unfold RATE_SCALE
    norm_num
  rw [roundedRate, mul_div_assoc', le_div_iff₀ scale]
  exact_mod_cast Iff.rfl

theorem roundedRate_nonneg {rate : ℚ} (positive : 0 < rate) : 0 ≤ roundedRate rate := by
  have scale : (0 : ℚ) ≤ RATE_SCALE := Nat.cast_nonneg RATE_SCALE
  have scaled : (0 : ℚ) ≤ rate * RATE_SCALE + 1 / 2 := by positivity
  exact div_nonneg (Int.cast_nonneg (Int.floor_nonneg.mpr scaled)) scale

/-- Nothing is converted to nothing, at any rate. -/
theorem samePrices_zero {rate : ℚ} (positive : 0 < rate) : SamePrices 0 rate := by
  intro stroops
  have units : (0 : ℚ) ≤ stroops / 10 ^ STELLAR_DECIMALS := by positivity
  have atRate : 0 ≤ worth rate stroops := mul_nonneg units positive.le
  have atRounded : 0 ≤ worth (roundedRate rate) stroops := mul_nonneg units (roundedRate_nonneg positive)
  exact ⟨fun _ => atRounded, fun _ => atRate⟩

/-- A conversion is worth the amount, and one stroop less is not, exactly where rounding the rate passes no price of a
number of stroops across the amount. -/
theorem convertUsdcToXlm_tight_iff {usdcAmount xlmAmount : String} {usdc rate : ℚ}
    (decimal : Denotes usdcAmount.toList usdc STELLAR_DECIMALS) (nonneg : 0 ≤ usdc)
    (converted : convertUsdcToXlm usdcAmount rate = .ok xlmAmount) :
    (∃ xlm, Denotes xlmAmount.toList xlm STELLAR_DECIMALS ∧ usdc ≤ xlm * rate ∧
      (xlm - 1 / 10 ^ STELLAR_DECIMALS) * rate < usdc) ↔ SamePrices usdc rate := by
  obtain ⟨positive, read, matched, few, computed⟩ := convertUsdcToXlm_cases converted
  obtain ⟨again, same, value, -⟩ := decimal
  obtain rfl : read = again := Option.some.inj (matched.symm.trans same)
  have size := magnitude_eq_baseUnits few
  have scale : (0 : ℚ) < 10 ^ STELLAR_DECIMALS := by positivity
  rcases computed with ⟨nothing, rfl⟩ | ⟨some, -, stroops, least, text, denotes, rfl⟩
  · have zero : usdc = 0 := by
      rw [← value, Literal.value, size, nothing, Nat.cast_zero, zero_div, neg_zero, ite_self]
    subst zero
    refine iff_of_true ⟨0, ⟨⟨false, ['0'], []⟩, rfl, by decide +kernel, by decide⟩, by rw [zero_mul], ?_⟩
      (samePrices_zero positive)
    have less : (0 : ℚ) - 1 / 10 ^ STELLAR_DECIMALS < 0 := by
      rw [zero_sub, neg_lt_zero]
      positivity
    exact mul_neg_of_neg_of_pos less positive
  · have amount : (0 : ℚ) < Literal.baseUnits read := Nat.cast_pos.mpr some
    have unsigned : read.negative = false := by
      by_contra signed
      rw [Literal.value, if_pos (Bool.eq_true_of_not_eq_false signed), size] at value
      have below : 0 < (Literal.baseUnits read : ℚ) / 10 ^ STELLAR_DECIMALS := div_pos amount scale
      linarith
    have usdcIs : usdc = (Literal.baseUnits read : ℚ) / 10 ^ STELLAR_DECIMALS := by
      rw [← value, Literal.value, unsigned, size]
      rfl
    have written : (String.ofList (if read.negative then '-' :: text else text)).toList = text := by
      rw [unsigned, String.toList_ofList]
      rfl
    rw [written]
    have nonzero : 0 < stroops := by
      by_contra none
      have reached := (least 0).mp (by omega)
      have price : 0 < (Literal.baseUnits read : ℤ) := Int.natCast_pos.mpr some
      simp only [RATE_SCALE] at reached
      omega
    have exact : (usdc ≤ (stroops : ℚ) / 10 ^ STELLAR_DECIMALS * rate ∧
        ((stroops : ℚ) / 10 ^ STELLAR_DECIMALS - 1 / 10 ^ STELLAR_DECIMALS) * rate < usdc) ↔ SamePrices usdc rate := by
      have lower : ((stroops : ℚ) / 10 ^ STELLAR_DECIMALS - 1 / 10 ^ STELLAR_DECIMALS) * rate =
          ((stroops - 1) * rate) / 10 ^ STELLAR_DECIMALS := by ring
      rw [lower, usdcIs, div_lt_div_iff_of_pos_right scale]
      change (_ ≤ worth rate stroops ∧ _) ↔ _
      rw [le_worth_iff, least_worth_iff positive nonzero]
      apply forall_congr'
      intro n
      rw [least n, le_worth_iff, le_worth_iff, le_mul_roundedRate_iff]
    constructor
    · rintro ⟨xlm, also, bounds⟩
      rw [also.unique denotes] at bounds
      exact exact.mp bounds
    · intro prices
      exact ⟨_, denotes, exact.mpr prices⟩

/-- At a rate of nine decimals the conversion is exact. -/
theorem convertUsdcToXlm_tight_cents : ∃ xlm, Denotes "0.0068182".toList xlm STELLAR_DECIMALS ∧
    (75 / 100000 : ℚ) ≤ xlm * (11 / 100) ∧ (xlm - 1 / 10 ^ STELLAR_DECIMALS) * (11 / 100) < 75 / 100000 := by
  have decimal : Denotes "0.00075".toList (75 / 100000) STELLAR_DECIMALS :=
    ⟨⟨false, ['0'], ['0', '0', '0', '7', '5']⟩, by decide, by decide +kernel, by decide⟩
  have exact : roundedRate (11 / 100) = 11 / 100 := by decide +kernel
  exact (convertUsdcToXlm_tight_iff decimal (by decide +kernel) (by decide +kernel)).mpr (samePrices_of_roundedRate exact)

/-- A rate that is rounded up to nine decimals makes 100 XLM out of an amount that they are not worth. -/
theorem convertUsdcToXlm_undercharges :
    Denotes "33.3333334".toList (333333334 / 10000000) STELLAR_DECIMALS ∧
    convertUsdcToXlm "33.3333334" (3333333337 / 10000000000) = .ok "100" ∧
    Denotes "100".toList 100 STELLAR_DECIMALS ∧
    ¬ (333333334 / 10000000 : ℚ) ≤ 100 * (3333333337 / 10000000000) := by
  refine ⟨⟨⟨false, ['3', '3'], ['3', '3', '3', '3', '3', '3', '4']⟩, by decide, by decide +kernel, by decide⟩,
    by decide +kernel, ⟨⟨false, ['1', '0', '0'], []⟩, by decide, by decide +kernel, by decide⟩, by decide +kernel⟩

end MppRouter.Proxy
