import MppRouter.Core.Decimal
import MppRouter.Core.JsonNumber

/-! # The price of a checkout

Amounts are decimal strings on the wire and atomic units in between, six decimals to a dollar. The service fee is a rate of the
original amount, rounded up to a whole cent.
-/

namespace MppRouter.Routes.Pricing

open Json TextEncoding List

def CHECKOUT_PRICING_VERSION : Units := word "checkout-web-fee-v3"
def MAX_CHECKOUT_WEB_FEE_BPS : ℕ := 100
def AGENT_BETA_CHANNEL : Units := word "agent-beta"

/-- Merchants that pay no service fee. Deliberately empty. -/
def FEE_EXEMPT_MERCHANTS : List Units := []

def isSpace (unit : UInt16) : Bool := Decimal.isSpace (Char.ofNat unit.toNat)

def trim (text : Units) : Units := (text.dropWhile isSpace).rdropWhile isSpace

def isFeeEligibleMerchant (merchant : Units) : Bool := !FEE_EXEMPT_MERCHANTS.contains (trim merchant)

/-! ## Amounts -/

local instance tenNeZero : NeZero 10 := ⟨by decide⟩

/-- Six digits: the first six of a fraction, or the fraction and zeros. -/
def sixDigits (fraction : List Digit) : List Digit := (fraction ++ replicate (6 - fraction.length) 0).take 6

/-- The digits before and after the point of a decimal, which a text is as a whole. -/
def matchDecimal (text : Units) : Option (List Digit × List Digit) :=
  let whole := readDigits text
  if whole.1 = [] then none
  else
    match whole.2 with
    | [] => some (whole.1, [])
    | unit :: rest =>
      let fraction := readDigits rest
      if unit = ascii '.' ∧ fraction.1 ≠ [] ∧ fraction.2 = [] then some (whole.1, fraction.1) else none

/-- A non-negative decimal amount in atomic units; it throws for any other text. -/
def parseUsdcAtomic (amountDecimal : Units) : Option ℕ :=
  (matchDecimal amountDecimal).map fun parts => valueOf parts.1 * 1000000 + valueOf (sixDigits parts.2)

/-- The digits of a fraction of a dollar, without the zeros at the end. -/
def fractionDigits (fraction : ℕ) : List Digit :=
  (replicate (6 - (digitsOf fraction).length) 0 ++ digitsOf fraction).rdropWhile (· = 0)

def formatUsdcAtomic (atomic : ℕ) : Units :=
  let whole := (digitsOf (atomic / 1000000)).map digitUnit
  if atomic % 1000000 = 0 then whole
  else whole ++ ascii '.' :: (fractionDigits (atomic % 1000000)).map digitUnit

/-! ## The fee -/

/-- The rate that is configured: an integer of 0 to 100 basis points, and 0 for everything else. -/
def parseCheckoutWebFeeBps (raw : Option Units) : ℕ :=
  match raw with
  | none => 0
  | some raw =>
    let digits := readDigits (trim raw)
    if digits.1 ≠ [] ∧ digits.2 = [] ∧ valueOf digits.1 ≤ MAX_CHECKOUT_WEB_FEE_BPS then valueOf digits.1 else 0

/-- A server-authenticated checkout channel with its own rate. -/
structure TrustedCheckoutChannel where
  feeBps : ℕ
  bounded : feeBps ≤ MAX_CHECKOUT_WEB_FEE_BPS

def ATOMIC_PER_CENT : ℕ := 10000
def CENT_DIVISOR : ℕ := 10000 * ATOMIC_PER_CENT

/-- The fee, rounded up to a whole cent; it throws for a rate out of range. -/
def computeServiceFeeAtomic (originalAtomic feeBps : ℕ) : Option ℕ :=
  if MAX_CHECKOUT_WEB_FEE_BPS < feeBps then none
  else if feeBps = 0 ∨ originalAtomic = 0 then some 0
  else some ((originalAtomic * feeBps + CENT_DIVISOR - 1) / CENT_DIVISOR * ATOMIC_PER_CENT)

structure CheckoutPricing where
  originalAtomic : ℕ
  serviceFeeAtomic : ℕ
  callerPaysAtomic : ℕ
  feeBps : ℕ
  pricingVersion : Units
  deriving DecidableEq, Repr

def resolveCheckoutPricing (originalAtomic : ℕ) (merchant : Units) (configuredFeeBps : Option Units)
    (channel : Option TrustedCheckoutChannel) : Option CheckoutPricing :=
  let configured := (channel.map TrustedCheckoutChannel.feeBps).getD (parseCheckoutWebFeeBps configuredFeeBps)
  let feeBps := if isFeeEligibleMerchant merchant then configured else 0
  (computeServiceFeeAtomic originalAtomic feeBps).map fun serviceFeeAtomic =>
    { originalAtomic, serviceFeeAtomic, callerPaysAtomic := originalAtomic + serviceFeeAtomic, feeBps
      pricingVersion := CHECKOUT_PRICING_VERSION }

/-! ## What is formatted is parsed -/

theorem no_head (unit : UInt16) (head : unit ∈ ([] : Units).head?) : digitOf unit = none := nomatch head

theorem matchDecimal_whole {digits : List Digit} (some : digits ≠ []) :
    matchDecimal (digits.map digitUnit) = Option.some (digits, []) := by
  have read := readDigits_append digits no_head
  rw [append_nil] at read
  simp only [matchDecimal, read, if_neg some]

theorem matchDecimal_fraction {whole fraction : List Digit} (some : whole ≠ []) (nonempty : fraction ≠ []) :
    matchDecimal (whole.map digitUnit ++ ascii '.' :: fraction.map digitUnit) = Option.some (whole, fraction) := by
  have point : ∀ unit ∈ (ascii '.' :: fraction.map digitUnit).head?, digitOf unit = none := by
    rintro unit ⟨⟩
    decide
  have read := readDigits_append whole point
  have readFraction := readDigits_append fraction no_head
  rw [append_nil] at readFraction
  simp only [matchDecimal, read, if_neg some, readFraction]
  rw [if_pos ⟨trivial, nonempty, trivial⟩]

theorem valueOf_zeros_append (count : ℕ) (digits : List Digit) : valueOf (replicate count 0 ++ digits) = valueOf digits := by
  unfold valueOf
  rw [foldl_append]
  congr 1
  induction count with
  | zero => rfl
  | succ count ih => rw [replicate_succ, foldl_cons]; exact ih

theorem digitsOf_length_le {value places : ℕ} (small : value < 10 ^ places) (some : 0 < places) :
    (digitsOf value).length ≤ places := by
  by_cases zero : value = 0
  · rw [zero]
    exact some
  · rw [digitsOf, if_neg zero, length_reverse, reversedDigits, length_map]
    exact (Nat.digits_length_le_iff (by decide) value).mpr small

/-- The digits of a fraction, filled up with zeros again, name it. -/
theorem sixDigits_fractionDigits {fraction : ℕ} (small : fraction < 1000000) :
    valueOf (sixDigits (fractionDigits fraction)) = fraction := by
  have short : (digitsOf fraction).length ≤ 6 := digitsOf_length_le small (by decide)
  obtain ⟨count, shape⟩ := trailing_zeros (replicate (6 - (digitsOf fraction).length) 0 ++ digitsOf fraction)
  have length := congrArg length shape
  rw [length_append, length_replicate, length_append, length_replicate] at length
  have missing : 6 - (fractionDigits fraction).length = count := by
    unfold fractionDigits
    omega
  have six : sixDigits (fractionDigits fraction) = replicate (6 - (digitsOf fraction).length) 0 ++ digitsOf fraction := by
    rw [sixDigits, missing]
    unfold fractionDigits
    rw [← shape]
    apply take_of_length_le
    rw [length_append, length_replicate]
    omega
  rw [six, valueOf_zeros_append, valueOf_digitsOf]

theorem fractionDigits_ne_nil {fraction : ℕ} (positive : fraction ≠ 0) (small : fraction < 1000000) :
    fractionDigits fraction ≠ [] := by
  intro empty
  have named := sixDigits_fractionDigits small
  rw [empty] at named
  exact positive named.symm

/-- What is formatted is parsed as the same amount. -/
theorem parse_format (atomic : ℕ) : parseUsdcAtomic (formatUsdcAtomic atomic) = some atomic := by
  have cut := Nat.div_add_mod atomic 1000000
  unfold parseUsdcAtomic formatUsdcAtomic
  dsimp only
  split
  next whole =>
    rw [matchDecimal_whole (digitsOf_ne_nil _), Option.map_some, valueOf_digitsOf]
    congr 1
    have zeros : valueOf (sixDigits []) = 0 := by decide
    rw [zeros]
    omega
  next part =>
    have small : atomic % 1000000 < 1000000 := Nat.mod_lt _ (by decide)
    rw [matchDecimal_fraction (digitsOf_ne_nil _) (fractionDigits_ne_nil part small), Option.map_some, valueOf_digitsOf,
      sixDigits_fractionDigits small]
    congr 1
    omega

/-! ## The fee is least -/

/-- The whole-cent amounts that are at least the rate's share of the original. -/
def Covers (originalAtomic feeBps fee : ℕ) : Prop := ATOMIC_PER_CENT ∣ fee ∧ originalAtomic * feeBps ≤ fee * 10000

theorem ceil_least (amount : ℕ) {divisor : ℕ} (positive : 0 < divisor) :
    amount ≤ (amount + divisor - 1) / divisor * divisor ∧
      ∀ cents, amount ≤ cents * divisor → (amount + divisor - 1) / divisor ≤ cents := by
  constructor
  · have enough := Nat.lt_div_mul_add (a := amount + divisor - 1) positive
    omega
  · intro cents enough
    rw [Nat.div_le_iff_le_mul positive]
    have expand : cents * divisor = divisor * cents := mul_comm _ _
    omega

/-- The fee is the least whole-cent amount that covers the rate. -/
theorem computeServiceFeeAtomic_least (originalAtomic : ℕ) {feeBps : ℕ} (bounded : feeBps ≤ MAX_CHECKOUT_WEB_FEE_BPS) :
    ∃ fee, computeServiceFeeAtomic originalAtomic feeBps = some fee ∧ Covers originalAtomic feeBps fee ∧
      ∀ other, Covers originalAtomic feeBps other → fee ≤ other := by
  unfold computeServiceFeeAtomic
  rw [if_neg (not_lt.mpr bounded)]
  split
  next free =>
    refine ⟨0, rfl, ⟨dvd_zero _, ?_⟩, fun other _ => Nat.zero_le other⟩
    rcases free with rfl | rfl <;> simp
  next =>
    obtain ⟨enough, least⟩ := ceil_least (originalAtomic * feeBps) (show 0 < CENT_DIVISOR by decide)
    refine ⟨_, rfl, ⟨Dvd.intro_left _ rfl, ?_⟩, ?_⟩
    · rw [mul_assoc]
      exact enough
    · rintro other ⟨⟨cents, rfl⟩, covers⟩
      have inCents : originalAtomic * feeBps ≤ cents * CENT_DIVISOR := by
        calc originalAtomic * feeBps ≤ ATOMIC_PER_CENT * cents * 10000 := covers
          _ = cents * CENT_DIVISOR := by
            unfold CENT_DIVISOR
            ring
      rw [mul_comm ATOMIC_PER_CENT]
      exact Nat.mul_le_mul_right _ (least cents inCents)

theorem parseCheckoutWebFeeBps_le (raw : Option Units) : parseCheckoutWebFeeBps raw ≤ MAX_CHECKOUT_WEB_FEE_BPS := by
  cases raw with
  | none => exact Nat.zero_le _
  | some raw =>
    unfold parseCheckoutWebFeeBps
    dsimp only
    split
    next bounds => exact bounds.2.2
    next => exact Nat.zero_le _

/-- The pricing that is resolved: the least fee that covers the rate, on top of the original. -/
structure Priced (originalAtomic : ℕ) (pricing : CheckoutPricing) : Prop where
  original : pricing.originalAtomic = originalAtomic
  bounded : pricing.feeBps ≤ MAX_CHECKOUT_WEB_FEE_BPS
  fee : computeServiceFeeAtomic originalAtomic pricing.feeBps = some pricing.serviceFeeAtomic
  covers : Covers originalAtomic pricing.feeBps pricing.serviceFeeAtomic
  least : ∀ other, Covers originalAtomic pricing.feeBps other → pricing.serviceFeeAtomic ≤ other
  callerPays : pricing.callerPaysAtomic = originalAtomic + pricing.serviceFeeAtomic
  version : pricing.pricingVersion = CHECKOUT_PRICING_VERSION

theorem resolveCheckoutPricing_priced (originalAtomic : ℕ) (merchant : Units) (configuredFeeBps : Option Units)
    (channel : Option TrustedCheckoutChannel) :
    ∃ pricing, resolveCheckoutPricing originalAtomic merchant configuredFeeBps channel = some pricing ∧
      Priced originalAtomic pricing := by
  have configured : (channel.map TrustedCheckoutChannel.feeBps).getD (parseCheckoutWebFeeBps configuredFeeBps) ≤
      MAX_CHECKOUT_WEB_FEE_BPS := by
    cases channel with
    | none => exact parseCheckoutWebFeeBps_le configuredFeeBps
    | some channel => exact channel.bounded
  have bounded : (if isFeeEligibleMerchant merchant then (channel.map TrustedCheckoutChannel.feeBps).getD
      (parseCheckoutWebFeeBps configuredFeeBps) else 0) ≤ MAX_CHECKOUT_WEB_FEE_BPS := by
    split
    next => exact configured
    next => exact Nat.zero_le _
  obtain ⟨fee, computed, covers, least⟩ := computeServiceFeeAtomic_least originalAtomic bounded
  unfold resolveCheckoutPricing
  dsimp only
  rw [computed]
  exact ⟨_, rfl, rfl, bounded, computed, covers, least, rfl, rfl⟩

end MppRouter.Routes.Pricing
