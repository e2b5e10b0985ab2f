import MppRouter.Core.Base64
import MppRouter.Core.JsonText
import MppRouter.Routes.CheckoutPricing

/-! # Quote receipts

A quote gives a checkout its price and a receipt for it: the pricing as JSON, in base64url, with a keyed hash of that. Who
creates the order presents the receipt, and the price is taken from it, whatever the rates are by then.
-/

namespace MppRouter.Routes.Pricing

open Json TextEncoding Base64

def RECEIPT_TTL_SECONDS : ℕ := 600

/-- The last second that the clock of a script has. -/
def LAST_SECOND : ℕ := 8640000000000

/-- A time of the clock, in seconds. -/
abbrev Seconds := { seconds : ℕ // seconds ≤ LAST_SECOND }

/-- What the platform computes: the keyed hash under the secret, the double nearest to a decimal, and what a decoder puts
for bytes that are no UTF-8. -/
structure Platform where
  hmac : List UInt8 → List UInt8
  nearest : Decimal → Number
  replaced : List UInt8 → Units
  hmac_length : ∀ message, (hmac message).length = 32

/-- The pricing that a receipt binds; a receipt without a channel is of an older version. -/
structure QuoteReceiptPricing where
  original : Units
  serviceFee : Units
  callerPays : Units
  feeBps : ℕ
  pricingVersion : Units
  client : Option Units
  channel : Option (Option Units)

/-- A string, or null. -/
def orNull : Option Units → Value
  | some text => .string text
  | none => .null

def QuoteReceiptPricing.fields (pricing : QuoteReceiptPricing) : List (Units × Value) :=
  [(word "original", .string pricing.original), (word "serviceFee", .string pricing.serviceFee),
    (word "callerPays", .string pricing.callerPays), (word "feeBps", .number (.ofNat pricing.feeBps)),
    (word "pricingVersion", .string pricing.pricingVersion), (word "client", orNull pricing.client)] ++
  (pricing.channel.map fun channel => (word "channel", orNull channel)).toList

def receiptVersion (pricing : Option QuoteReceiptPricing) : ℕ :=
  match pricing with
  | none => 1
  | some pricing => if pricing.channel.isSome then 3 else 2

def receiptPayload (paymentId amount merchant : Units) (nowSeconds : ℕ) (pricing : Option QuoteReceiptPricing) : Value :=
  .object ([(word "v", .number (.ofNat (receiptVersion pricing))), (word "paymentId", .string paymentId),
    (word "amount", .string amount), (word "merchant", .string merchant)] ++ (pricing.map QuoteReceiptPricing.fields).getD [] ++
    [(word "iat", .number (.ofNat nowSeconds)), (word "exp", .number (.ofNat (nowSeconds + RECEIPT_TTL_SECONDS)))])

/-- What of a receipt is signed. -/
def encodedPayload (payload : Value) : Units := units (base64UrlEncode (encode payload.text))

def signReceipt (platform : Platform) (payload : Value) : Units :=
  encodedPayload payload ++ ascii '.' :: units (base64UrlEncode (platform.hmac (encode (encodedPayload payload))))

def createQuoteReceipt (platform : Platform) (paymentId amount merchant : Units) (nowSeconds : ℕ)
    (pricing : Option QuoteReceiptPricing) : Units :=
  signReceipt platform (receiptPayload paymentId amount merchant nowSeconds pricing)

/-! ## Reading a receipt -/

def stringAt (payload : Value) (key : String) : Option Units :=
  match payload.field (word key) with
  | some (.string text) => some text
  | _ => none

def numberAt (payload : Value) (key : String) : Option Number :=
  match payload.field (word key) with
  | some (.number value) => some value
  | _ => none

def isNull (payload : Value) (key : String) : Bool :=
  match payload.field (word key) with
  | some .null => true
  | _ => false

/-- The version of a receipt. -/
def versionOf (payload : Value) : Option ℕ := (numberAt payload "v").bind Number.toNat?

def feeBpsOf (payload : Value) : Option ℕ :=
  ((numberAt payload "feeBps").bind Number.toNat?).filter fun feeBps => decide (feeBps ≤ MAX_CHECKOUT_WEB_FEE_BPS)

/-- What every receipt must hold: it is for the payment and not from the future, and has not expired. -/
def holdsQuote (payload : Value) (expectedPaymentId : Units) (nowSeconds : ℕ) : Bool :=
  (versionOf payload).any (fun version => version == 1 || version == 2 || version == 3) &&
  stringAt payload "paymentId" == some expectedPaymentId && (stringAt payload "amount").isSome &&
  (stringAt payload "merchant").any (· != []) && (numberAt payload "iat").any (·.atMost (nowSeconds + 30)) &&
  (numberAt payload "exp").any (!·.atMost nowSeconds)

/-- What a receipt of the second or third version must hold besides. -/
def holdsPricing (payload : Value) : Bool :=
  (stringAt payload "original").isSome && (stringAt payload "serviceFee").isSome && (stringAt payload "callerPays").isSome &&
  (feeBpsOf payload).isSome && (stringAt payload "pricingVersion").any (· != []) &&
  (isNull payload "client" || (stringAt payload "client").isSome)

def holdsChannel (payload : Value) : Bool := isNull payload "channel" || (stringAt payload "channel").isSome

def acceptsPayload (payload : Value) (expectedPaymentId : Units) (nowSeconds : ℕ) : Bool :=
  holdsQuote payload expectedPaymentId nowSeconds && (versionOf payload == some 1 || holdsPricing payload) &&
    (versionOf payload != some 3 || holdsChannel payload)

/-- The parts of a receipt: two that are not empty, and then nothing or an empty one. -/
def receiptParts (receipt : Units) : Option (Units × Units) :=
  match receipt.splitOn (ascii '.') with
  | payload :: signature :: extra =>
    if payload = [] ∨ signature = [] ∨ extra.head?.any (· != []) then none else some (payload, signature)
  | _ => none

/-- The signature is the keyed hash of the payload. -/
def Verifies (platform : Platform) (parts : Units × Units) : Prop :=
  base64UrlDecode (scalars parts.2) = some (platform.hmac (encode parts.1))

instance (platform : Platform) (parts : Units × Units) : Decidable (Verifies platform parts) :=
  inferInstanceAs (Decidable (_ = _))

/-- The payload of a receipt, where its signature is right and it is good for the payment now. -/
def verifyQuoteReceipt (platform : Platform) (receipt expectedPaymentId : Units) (nowSeconds : ℕ) : Option Value := do
  let parts ← receiptParts receipt
  if Verifies platform parts then
    let bytes ← base64UrlDecode (scalars parts.1)
    let payload ← parse (double platform.nearest) (decode platform.replaced bytes)
    if acceptsPayload payload expectedPaymentId nowSeconds then some payload else none
  else none

/-! ## The price of a receipt -/

/-- The channels that have a price of their own, or none. -/
def knownChannel (payload : Value) : Bool := isNull payload "channel" || stringAt payload "channel" == some AGENT_BETA_CHANNEL

/-- Recover the exact signed pricing snapshot from a quote receipt. -/
def pricingFromReceipt (receipt : Option Value) (originalAtomic : ℕ) (merchant : Units) : Option CheckoutPricing := do
  let receipt ← receipt
  if versionOf receipt ≠ some 3 ∨ isNull receipt "client" = false then none
  else if knownChannel receipt = false then none
  else if stringAt receipt "pricingVersion" ≠ some CHECKOUT_PRICING_VERSION then none
  else
    let signedOriginal ← (stringAt receipt "original").bind parseUsdcAtomic
    let signedFee ← (stringAt receipt "serviceFee").bind parseUsdcAtomic
    let signedCallerPays ← (stringAt receipt "callerPays").bind parseUsdcAtomic
    let feeBps ← feeBpsOf receipt
    if signedOriginal ≠ originalAtomic ∨ signedOriginal + signedFee ≠ signedCallerPays ∨
        computeServiceFeeAtomic signedOriginal feeBps ≠ some signedFee then none
    else if isFeeEligibleMerchant merchant = false ∧ (feeBps ≠ 0 ∨ signedFee ≠ 0) then none
    else
      some { originalAtomic := signedOriginal, serviceFeeAtomic := signedFee, callerPaysAtomic := signedCallerPays, feeBps
             pricingVersion := CHECKOUT_PRICING_VERSION }

/-! ## Quotes -/

/-- What a quote is asked for, and when. -/
structure Quote where
  paymentId : Units
  amount : Units
  originalAtomic : ℕ
  merchant : Units
  configuredFeeBps : Option Units
  channel : Option TrustedCheckoutChannel
  nowSeconds : Seconds

namespace Quote

variable (quote : Quote)

def pricing : Option CheckoutPricing :=
  resolveCheckoutPricing quote.originalAtomic quote.merchant quote.configuredFeeBps quote.channel

/-- The pricing as the receipt of the quote binds it. -/
def receiptPricing (pricing : CheckoutPricing) : QuoteReceiptPricing where
  original := formatUsdcAtomic pricing.originalAtomic
  serviceFee := formatUsdcAtomic pricing.serviceFeeAtomic
  callerPays := formatUsdcAtomic pricing.callerPaysAtomic
  feeBps := pricing.feeBps
  pricingVersion := pricing.pricingVersion
  client := none
  channel := some (quote.channel.map fun _ => AGENT_BETA_CHANNEL)

def payload (pricing : CheckoutPricing) : Value :=
  receiptPayload quote.paymentId quote.amount quote.merchant quote.nowSeconds (some (quote.receiptPricing pricing))

/-- The pricing that is answered, with the receipt for it. -/
def answer (platform : Platform) : Option (CheckoutPricing × Units) :=
  quote.pricing.map fun pricing =>
    (pricing, createQuoteReceipt platform quote.paymentId quote.amount quote.merchant quote.nowSeconds
      (some (quote.receiptPricing pricing)))

end Quote

end MppRouter.Routes.Pricing
