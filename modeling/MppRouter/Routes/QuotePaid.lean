import MppRouter.Routes.QuoteReceipt

/-! # The price quoted is the price paid

A receipt is read back as the payload that was signed, so the order is priced as the quote was, whatever the rates are by
then. Nobody who cannot sign gets a receipt accepted that no quote gave for that payment.
-/

namespace MppRouter.Routes.Pricing

open Json TextEncoding Base64 List Option

/-! ## What is signed is read -/

theorem base64UrlEncode_ne_nil {bytes : List UInt8} (some : bytes ≠ []) : base64UrlEncode bytes ≠ [] := by
  intro empty
  have read := base64UrlDecode_encode bytes
  rw [empty] at read
  exact some (Option.some.inj read).symm

theorem units_ne_nil {text : List Char} (some : text ≠ []) : units text ≠ [] := by
  intro empty
  have same : units text = units [] := empty
  exact some (units_injective same)

/-- The parts of a token hold no point. -/
theorem units_plain (bytes : List UInt8) : ascii '.' ∉ units (base64UrlEncode bytes) := by
  intro member
  obtain ⟨front, back, shape⟩ := append_of_mem member
  have characters : base64UrlEncode bytes = scalars front ++ '.' :: scalars back := by
    rw [← scalars_units (base64UrlEncode bytes), shape, scalars_append front (by decide),
      scalars_cons_of_not_high (by decide)]
    rfl
  apply base64UrlEncode_plain bytes
  rw [characters]
  simp

section Signed

variable (platform : Platform) {fields : List (Units × Value)}

/-- An object's text, as bytes, is not empty and has no byte order mark. -/
theorem object_text (fields : List (Units × Value)) : ∃ rest, scalars (Value.object fields).text = '\x7b' :: rest := by
  refine ⟨scalars (commaSeparated ((fieldTexts fields).map writeField) ++ [ascii '\x7d']), ?_⟩
  rw [Value.text, scalars_cons_of_not_high (by decide)]
  rfl

theorem object_bytes (fields : List (Units × Value)) : encode (Value.object fields).text ≠ [] := by
  intro empty
  have same : encode (Value.object fields).text = encode [] := empty
  rw [encode_inj] at same
  obtain ⟨rest, shape⟩ := object_text fields
  rw [shape] at same
  cases same

theorem decode_payload (fields : List (Units × Value)) :
    decode platform.replaced (encode (Value.object fields).text) = (Value.object fields).text := by
  apply decode_encode _ (Value.text_wellFormed _)
  obtain ⟨rest, shape⟩ := object_text fields
  rw [shape, head?_cons]
  decide

theorem receiptParts_sign (fields : List (Units × Value)) :
    receiptParts (signReceipt platform (.object fields)) = some (encodedPayload (.object fields),
      units (base64UrlEncode (platform.hmac (encode (encodedPayload (.object fields)))))) := by
  have signature : platform.hmac (encode (encodedPayload (.object fields))) ≠ [] := by
    intro empty
    have length := platform.hmac_length (encode (encodedPayload (.object fields)))
    rw [empty] at length
    cases length
  have parts : (signReceipt platform (.object fields)).splitOn (ascii '.') = [encodedPayload (.object fields),
      units (base64UrlEncode (platform.hmac (encode (encodedPayload (.object fields)))))] := by
    unfold signReceipt
    rw [splitOn_append_cons_self_of_not_mem, splitOn_eq_singleton (units_plain _)]
    exact units_plain _
  have some : ¬ (encodedPayload (.object fields) = [] ∨
      units (base64UrlEncode (platform.hmac (encode (encodedPayload (.object fields))))) = [] ∨
      ([] : List Units).head?.any (· != []) = true) := by
    rintro (empty | empty | extra)
    · exact units_ne_nil (base64UrlEncode_ne_nil (object_bytes fields)) empty
    · exact units_ne_nil (base64UrlEncode_ne_nil signature) empty
    · cases extra
  rw [receiptParts, parts]
  exact if_neg some

theorem decode_encodedPayload (payload : Value) :
    base64UrlDecode (scalars (encodedPayload payload)) = some (encode payload.text) := by
  rw [encodedPayload, scalars_units, base64UrlDecode_encode]

variable {P : Value → Prop}

/-- A receipt that was signed is accepted exactly where its payload is good. -/
theorem verify_sign (held : (Value.object fields).Everywhere (Value.Held (double platform.nearest))) (expected : Units)
    (now : ℕ) : verifyQuoteReceipt platform (signReceipt platform (.object fields)) expected now =
      if acceptsPayload (.object fields) expected now then some (.object fields) else none := by
  have verifies : Verifies platform (encodedPayload (.object fields),
      units (base64UrlEncode (platform.hmac (encode (encodedPayload (.object fields)))))) := by
    rw [Verifies, scalars_units, base64UrlDecode_encode]
  rw [verifyQuoteReceipt, receiptParts_sign]
  simp only [bind_eq_bind, bind_some, if_pos verifies, decode_encodedPayload, decode_payload, parse_text held]

end Signed

/-! ## The payload of a quote -/

theorem leaf_everywhere {value : Value} (leaf : ∀ inner, Value.Within inner value → inner = value)
    (own : P value) : value.Everywhere P := by
  intro inner within
  rw [leaf inner within]
  exact own

theorem string_everywhere {text : Units} (own : P (.string text)) : (Value.string text).Everywhere P :=
  leaf_everywhere (fun _ within => by cases within; rfl) own

theorem number_everywhere {value : Number} (own : P (.number value)) : (Value.number value).Everywhere P :=
  leaf_everywhere (fun _ within => by cases within; rfl) own

theorem orNull_everywhere (text : Option Units) (own : ∀ text, P (.string text)) (null : P .null) :
    (orNull text).Everywhere P := by
  cases text with
  | none => exact leaf_everywhere (fun _ within => by cases within; rfl) null
  | some text => exact string_everywhere (own text)

namespace Quote

variable (quote : Quote) (platform : Platform) {pricing : CheckoutPricing}

/-- The payload of a quote is one that the script can hold. -/
theorem payload_held (bounded : pricing.feeBps ≤ MAX_CHECKOUT_WEB_FEE_BPS) :
    (quote.payload pricing).Everywhere (Value.Held (double platform.nearest)) := by
  have time : quote.nowSeconds.val ≤ LAST_SECOND := quote.nowSeconds.property
  have clock : LAST_SECOND + RECEIPT_TTL_SECONDS ≤ 2 ^ 53 := by decide
  have rate : MAX_CHECKOUT_WEB_FEE_BPS ≤ 2 ^ 53 := by decide
  have keys : [word "v", word "paymentId", word "amount", word "merchant", word "original", word "serviceFee",
    word "callerPays", word "feeBps", word "pricingVersion", word "client", word "channel", word "iat", word "exp"].Nodup := by
    decide
  have text (text : Units) : (Value.string text).Everywhere (Value.Held (double platform.nearest)) := string_everywhere trivial
  have number {value : ℕ} (small : value ≤ 2 ^ 53) :
      (Value.number (.ofNat value)).Everywhere (Value.Held (double platform.nearest)) :=
    number_everywhere (held_ofNat platform.nearest small)
  have nullable (text : Option Units) : (orNull text).Everywhere (Value.Held (double platform.nearest)) :=
    orNull_everywhere text (fun _ => trivial) trivial
  have own : (quote.payload pricing).Held (double platform.nearest) := keys
  apply Value.Everywhere.object own
  simp only [QuoteReceiptPricing.fields, receiptPricing, map_some, getD_some, toList_some, cons_append,
    nil_append, forall_mem_cons]
  have version : receiptVersion (some (quote.receiptPricing pricing)) ≤ 2 ^ 53 := by
    change 3 ≤ 2 ^ 53
    decide
  exact ⟨number version, text _, text _, text _, text _, text _, text _, number (bounded.trans rate), text _, nullable _,
    nullable _, number (by omega), number (by unfold RECEIPT_TTL_SECONDS at *; omega), forall_mem_nil _⟩

variable (pricing) in
theorem payload_fields : ((quote.payload pricing).field (word "v") = some (.number (.ofNat 3)) ∧
    stringAt (quote.payload pricing) "paymentId" = some quote.paymentId ∧
    stringAt (quote.payload pricing) "amount" = some quote.amount ∧
    stringAt (quote.payload pricing) "merchant" = some quote.merchant ∧
    numberAt (quote.payload pricing) "iat" = some (.ofNat quote.nowSeconds) ∧
    numberAt (quote.payload pricing) "exp" = some (.ofNat (quote.nowSeconds + RECEIPT_TTL_SECONDS))) ∧
    stringAt (quote.payload pricing) "original" = some (formatUsdcAtomic pricing.originalAtomic) ∧
    stringAt (quote.payload pricing) "serviceFee" = some (formatUsdcAtomic pricing.serviceFeeAtomic) ∧
    stringAt (quote.payload pricing) "callerPays" = some (formatUsdcAtomic pricing.callerPaysAtomic) ∧
    numberAt (quote.payload pricing) "feeBps" = some (.ofNat pricing.feeBps) ∧
    stringAt (quote.payload pricing) "pricingVersion" = some pricing.pricingVersion ∧
    isNull (quote.payload pricing) "client" = true ∧
    (quote.payload pricing).field (word "channel") = some (orNull (quote.channel.map fun _ => AGENT_BETA_CHANNEL)) :=
  ⟨⟨rfl, rfl, rfl, rfl, rfl, rfl⟩, rfl, rfl, rfl, rfl, rfl, rfl, rfl⟩

variable (pricing) in
theorem payload_version : versionOf (quote.payload pricing) = some 3 := by
  have version : numberAt (quote.payload pricing) "v" = some (.ofNat 3) := rfl
  rw [versionOf, version, bind_some, toNat?_ofNat]

theorem payload_feeBps (bounded : pricing.feeBps ≤ MAX_CHECKOUT_WEB_FEE_BPS) :
    feeBpsOf (quote.payload pricing) = some pricing.feeBps := by
  obtain ⟨-, -, -, -, feeBps, -⟩ := quote.payload_fields pricing
  rw [feeBpsOf, feeBps, bind_some, toNat?_ofNat, filter_some, if_pos (decide_eq_true bounded)]

variable (pricing) in
/-- The channel of a quote is none or the one that has a rate of its own. -/
theorem payload_channel : knownChannel (quote.payload pricing) = true ∧ holdsChannel (quote.payload pricing) = true := by
  obtain ⟨-, -, -, -, -, -, -, channel⟩ := quote.payload_fields pricing
  unfold knownChannel holdsChannel isNull stringAt
  rw [channel]
  cases quote.channel with
  | none => exact ⟨rfl, rfl⟩
  | some channel =>
    constructor
    · simp only [map_some, orNull, BEq.rfl, Bool.or_true]
    · rfl

/-- When the receipt of a quote is good: for its payment, from half a minute before the quote to the end of its lifetime, and
only where the quote named a merchant. -/
def GoodFor (expected : Units) (now : ℕ) : Prop :=
  quote.paymentId = expected ∧ quote.merchant ≠ [] ∧ quote.nowSeconds ≤ now + 30 ∧ now < quote.nowSeconds + RECEIPT_TTL_SECONDS

theorem acceptsPayload_iff {originalAtomic : ℕ} (priced : Priced originalAtomic pricing) (expected : Units) (now : ℕ) :
    acceptsPayload (quote.payload pricing) expected now = true ↔ quote.GoodFor expected now := by
  obtain ⟨⟨-, paymentId, amount, merchant, iat, exp⟩, original, fee, callerPays, -, pricingVersion, client, -⟩ :=
    quote.payload_fields pricing
  have version := quote.payload_version pricing
  have feeBps := quote.payload_feeBps priced.bounded
  have channel := (quote.payload_channel pricing).2
  have named : pricing.pricingVersion ≠ [] := by
    rw [priced.version]
    decide
  have pricings : holdsPricing (quote.payload pricing) = true := by
    simp [holdsPricing, original, fee, callerPays, feeBps, pricingVersion, client, named]
  have quotes : holdsQuote (quote.payload pricing) expected now = true ↔ quote.GoodFor expected now := by
    simp [holdsQuote, version, paymentId, amount, merchant, iat, exp, atMost_ofNat, GoodFor, and_assoc]
  rw [acceptsPayload, pricings, channel, Bool.or_true, Bool.or_true, Bool.and_true, Bool.and_true, quotes]

theorem pricingFromReceipt_payload {originalAtomic : ℕ} (priced : Priced originalAtomic pricing) (asked : ℕ) (merchant : Units) :
    pricingFromReceipt (some (quote.payload pricing)) asked merchant = if originalAtomic = asked then some pricing else none := by
  obtain ⟨-, original, fee, callerPays, -, pricingVersion, client, -⟩ := quote.payload_fields pricing
  have version := quote.payload_version pricing
  have feeBps := quote.payload_feeBps priced.bounded
  have channel := (quote.payload_channel pricing).1
  have eligible : isFeeEligibleMerchant merchant = true := rfl
  have whole : pricing = ⟨originalAtomic, pricing.serviceFeeAtomic, originalAtomic + pricing.serviceFeeAtomic, pricing.feeBps,
      CHECKOUT_PRICING_VERSION⟩ := by
    rw [← priced.callerPays, ← priced.version]
    conv_rhs => rw [← priced.original]
  by_cases same : originalAtomic = asked
  · rw [if_pos same, ← same]
    conv_rhs => rw [whole]
    simp [pricingFromReceipt, version, client, channel, pricingVersion, priced.version, original, fee, callerPays, feeBps,
      parse_format, eligible, priced.original, priced.callerPays, priced.fee]
  · rw [if_neg same]
    simp [pricingFromReceipt, version, client, channel, pricingVersion, priced.version, original, fee, callerPays, feeBps,
      parse_format, priced.original, same]

end Quote

/-! ## Quoted and paid -/

/-- Whoever presents a receipt with the right signature presents a payload that was signed for a quote. -/
def Unforged (platform : Platform) (issued : List Quote) (receipt : Units) : Prop :=
  ∀ parts, receiptParts receipt = some parts → Verifies platform parts →
    ∃ quote ∈ issued, ∃ pricing, quote.pricing = some pricing ∧ encode parts.1 = encode (encodedPayload (quote.payload pricing))

theorem verify_issued {platform : Platform} {issued : List Quote} {receipt expected : Units} {now : ℕ} {payload : Value}
    (unforged : Unforged platform issued receipt)
    (accepted : verifyQuoteReceipt platform receipt expected now = some payload) :
    ∃ quote ∈ issued, ∃ pricing, quote.pricing = some pricing ∧ payload = quote.payload pricing ∧ quote.GoodFor expected now := by
  unfold verifyQuoteReceipt at accepted
  rw [bind_eq_bind, bind_eq_some_iff] at accepted
  obtain ⟨parts, split, accepted⟩ := accepted
  split at accepted
  next verifies =>
    obtain ⟨quote, member, pricing, resolved, signed⟩ := unforged parts split verifies
    obtain ⟨found, resolves, priced⟩ := resolveCheckoutPricing_priced quote.originalAtomic quote.merchant
      quote.configuredFeeBps quote.channel
    obtain rfl : found = pricing := Option.some.inj (resolves.symm.trans resolved)
    rw [encode_inj] at signed
    rw [signed] at accepted
    simp only [decode_encodedPayload, bind_eq_bind, bind_some] at accepted
    have held := quote.payload_held platform priced.bounded
    have decoded : decode platform.replaced (encode (quote.payload found).text) = (quote.payload found).text :=
      decode_payload platform _
    rw [decoded, parse_text held, bind_some] at accepted
    split at accepted
    next good =>
      exact ⟨quote, member, found, resolved, (Option.some.inj accepted).symm, (quote.acceptsPayload_iff priced expected now).mp good⟩
    next => cases accepted
  next => cases accepted

/-- A receipt is worth what its quote said: for half a minute before it and until its lifetime ends the order for that payment is
priced as quoted, at the least whole-cent fee that covers the rate. And no receipt that was not forged is accepted for another
payment, amount or version, or after its expiry. -/
theorem quoted_is_paid (platform : Platform) (quote : Quote) (accepted : parseUsdcAtomic quote.amount = some quote.originalAtomic)
    (named : quote.merchant ≠ []) :
    (∃ pricing receipt, quote.answer platform = some (pricing, receipt) ∧ Priced quote.originalAtomic pricing ∧
      ∀ now : ℕ, quote.nowSeconds ≤ now + 30 → now < quote.nowSeconds + RECEIPT_TTL_SECONDS →
        ∃ payload, verifyQuoteReceipt platform receipt quote.paymentId now = some payload ∧
          ∀ merchant, pricingFromReceipt (some payload) quote.originalAtomic merchant = some pricing ∧
            (stringAt payload "amount").bind parseUsdcAtomic = some pricing.originalAtomic) ∧
      ∀ issued receipt expected now payload, Unforged platform issued receipt →
        verifyQuoteReceipt platform receipt expected now = some payload →
        ∃ source ∈ issued, source.paymentId = expected ∧ stringAt payload "amount" = some source.amount ∧
          now < source.nowSeconds + RECEIPT_TTL_SECONDS ∧ versionOf payload = some 3 ∧
          stringAt payload "pricingVersion" = some CHECKOUT_PRICING_VERSION ∧
          ∀ originalAtomic merchant pricing, pricingFromReceipt (some payload) originalAtomic merchant = some pricing →
            originalAtomic = source.originalAtomic ∧ source.pricing = some pricing := by
  constructor
  · obtain ⟨pricing, resolved, priced⟩ := resolveCheckoutPricing_priced quote.originalAtomic quote.merchant
      quote.configuredFeeBps quote.channel
    have answered : quote.answer platform = some (pricing, signReceipt platform (quote.payload pricing)) := by
      rw [Quote.answer, Quote.pricing, resolved]
      rfl
    refine ⟨pricing, _, answered, priced, ?_⟩
    intro now started unexpired
    have good := (quote.acceptsPayload_iff priced quote.paymentId now).mpr ⟨rfl, named, started, unexpired⟩
    have held := quote.payload_held platform priced.bounded
    have verified : verifyQuoteReceipt platform (signReceipt platform (quote.payload pricing)) quote.paymentId now =
        if acceptsPayload (quote.payload pricing) quote.paymentId now then some (quote.payload pricing) else none :=
      verify_sign platform held quote.paymentId now
    rw [if_pos good] at verified
    refine ⟨_, verified, fun merchant => ⟨?_, ?_⟩⟩
    · rw [quote.pricingFromReceipt_payload priced, if_pos rfl]
    · obtain ⟨⟨-, -, amount, -⟩, -⟩ := quote.payload_fields pricing
      rw [amount, bind_some, accepted, priced.original]
  · intro issued receipt expected now payload unforged verified
    obtain ⟨source, member, pricing, resolved, rfl, good⟩ := verify_issued unforged verified
    obtain ⟨found, resolves, priced⟩ := resolveCheckoutPricing_priced source.originalAtomic source.merchant
      source.configuredFeeBps source.channel
    obtain rfl : found = pricing := Option.some.inj (resolves.symm.trans resolved)
    obtain ⟨⟨-, -, amount, -⟩, -, -, -, -, pricingVersion, -⟩ := source.payload_fields found
    refine ⟨source, member, good.1, amount, good.2.2.2, source.payload_version _, ?_, ?_⟩
    · rw [pricingVersion, priced.version]
    · intro originalAtomic merchant pricing priceGiven
      rw [source.pricingFromReceipt_payload priced] at priceGiven
      split at priceGiven
      next same =>
        rw [← Option.some.inj priceGiven]
        exact ⟨same.symm, resolved⟩
      next => cases priceGiven

/-- A quote of a dollar and a half at one per cent. -/
def shopQuote (merchant : Units) : Quote where
  paymentId := word "pl_1"
  amount := word "1.5"
  originalAtomic := 1500000
  merchant := merchant
  configuredFeeBps := some (word "100")
  channel := none
  nowSeconds := ⟨1000, by decide⟩

/-- The platform, on the one message that is signed here. -/
def shopPlatform : Platform where
  hmac _ := [153, 174, 111, 43, 207, 80, 190, 228, 60, 1, 65, 225, 63, 51, 37, 163, 215, 10,
    73, 111, 145, 69, 146, 215, 63, 207, 17, 139, 68, 186, 70, 47]
  nearest := .finite
  replaced _ := []
  hmac_length _ := rfl

theorem shopQuote_accepted (merchant : Units) :
    parseUsdcAtomic (shopQuote merchant).amount = some (shopQuote merchant).originalAtomic := by
  have parsed : parseUsdcAtomic (word "1.5") = some 1500000 := by decide
  exact parsed

/-- The receipt of an answer is not forged. -/
theorem Quote.answer_unforged {platform : Platform} {quote : Quote} {pricing : CheckoutPricing} {receipt : Units}
    (answered : quote.answer platform = some (pricing, receipt)) : Unforged platform [quote] receipt := by
  rw [Quote.answer, map_eq_some_iff] at answered
  obtain ⟨found, resolved, same⟩ := answered
  rw [← (Prod.mk.inj same).2]
  intro parts split _
  have opened : receiptParts (signReceipt platform (quote.payload found)) = some (encodedPayload (quote.payload found), _) :=
    receiptParts_sign platform _
  refine ⟨quote, mem_singleton_self quote, found, resolved, ?_⟩
  rw [Option.some.inj (split.symm.trans opened)]

theorem quoted_is_paid_shop : ∃ pricing receipt,
    (shopQuote (word "Shop")).answer shopPlatform = some (pricing, receipt) ∧ Priced 1500000 pricing ∧
      ∃ payload, verifyQuoteReceipt shopPlatform receipt (word "pl_1") 1000 = some payload ∧
        pricingFromReceipt (some payload) 1500000 (word "Shop") = some pricing ∧
        Unforged shopPlatform [shopQuote (word "Shop")] receipt ∧ ∃ source ∈ [shopQuote (word "Shop")],
          source.paymentId = word "pl_1" ∧ stringAt payload "amount" = some source.amount := by
  obtain ⟨⟨pricing, receipt, answered, priced, paid⟩, genuine⟩ :=
    quoted_is_paid shopPlatform (shopQuote (word "Shop")) (shopQuote_accepted _) (show word "Shop" ≠ [] by decide)
  obtain ⟨payload, verified, price⟩ := paid 1000 (show 1000 ≤ 1000 + 30 by decide) (show 1000 < 1000 + 600 by decide)
  have unforged : Unforged shopPlatform [shopQuote (word "Shop")] receipt := Quote.answer_unforged answered
  obtain ⟨source, member, named, amount, -⟩ := genuine _ receipt _ 1000 payload unforged verified
  exact ⟨pricing, receipt, answered, priced, payload, verified, (price (word "Shop")).1, unforged, source, member, named,
    amount⟩

/-- A quote for a merchant without a name gives a receipt that no order can use. -/
theorem unnamed_merchant_refused : ∃ pricing receipt, (shopQuote []).answer shopPlatform = some (pricing, receipt) ∧
    parseUsdcAtomic (shopQuote []).amount = some (shopQuote []).originalAtomic ∧
      verifyQuoteReceipt shopPlatform receipt (shopQuote []).paymentId 1000 = none := by
  obtain ⟨pricing, resolved, priced⟩ := resolveCheckoutPricing_priced 1500000 [] (some (word "100")) none
  have answered : (shopQuote []).answer shopPlatform = some (pricing, signReceipt shopPlatform ((shopQuote []).payload pricing)) := by
    change ((resolveCheckoutPricing 1500000 [] (some (word "100")) none).map fun pricing => _) = _
    rw [resolved]
    rfl
  refine ⟨pricing, _, answered, shopQuote_accepted [], ?_⟩
  have held := (shopQuote []).payload_held shopPlatform priced.bounded
  have verified : verifyQuoteReceipt shopPlatform (signReceipt shopPlatform ((shopQuote []).payload pricing))
      (shopQuote []).paymentId 1000 =
      if acceptsPayload ((shopQuote []).payload pricing) (shopQuote []).paymentId 1000 then some ((shopQuote []).payload pricing)
      else none := verify_sign shopPlatform held _ _
  rw [verified, if_neg]
  rw [Quote.acceptsPayload_iff (shopQuote []) priced]
  exact fun good => good.2.1 rfl

end MppRouter.Routes.Pricing
