import MppRouter.Core.Decimal
import MppRouter.Core.JsonOrder

/-! # Payment requirements and what binds an idempotency key to one

A requirement is one entry of the `accepts` of a 402 answer. Only exact payments in USDC on Base and on Solana are
signed. The fields that may not change under an idempotency key are written as canonical JSON, and the hash of that
text stands for them.
-/

namespace MppRouter.X402Payer

open Decimal Json TextEncoding List
open Option (map_some some)

/-! ## Canonical JSON -/

/-- The string a field holds. Every text it is compared with is ASCII, so no half of a pair is mistaken. -/
def stringField (value : Value) (key : String) : Option String :=
  match value.field (word key) with
  | some (.string text) => some (String.ofList (scalars text))
  | _ => none

mutual

/-- JSON with object keys sorted recursively. -/
def canonicalJson : Value → Units
  | .array items => ascii '[' :: (commaSeparated (canonicalItems items) ++ [ascii ']'])
  | .object fields =>
    let sorted := (canonicalFields fields).insertionSort keyOrder
    ascii '\x7b' :: (commaSeparated (sorted.map writeField) ++ [ascii '\x7d'])
  | .null => Value.text .null
  | .bool value => Value.text (.bool value)
  | .number value => Value.text (.number value)
  | .string text => Value.text (.string text)

def canonicalItems : List Value → List Units
  | [] => []
  | item :: items => canonicalJson item :: canonicalItems items

def canonicalFields : List (Units × Value) → List (Units × Units)
  | [] => []
  | (key, value) :: fields => (key, canonicalJson value) :: canonicalFields fields

end

/-! ## Requirements -/

inductive SupportedNetwork where
  | base
  | solana
  deriving DecidableEq, Repr

def BASE_MAINNET_CAIP2 : String := "eip155:8453"
def SOLANA_MAINNET_CAIP2 : String := "solana:5eykt4UsFv8P8NJdTREpY1vzqKqZKvdp"
def BASE_USDC : String := "0x833589fcd6edb6e08f4c7c32d4f71b54bda02913"
def SOLANA_USDC : String := "EPjFWdd5AufqSSqeM2qN1xzybapC8G4wEGGkZwyTDt1v"
def BASE_USDC_EIP712_NAME : String := "USD Coin"
def BASE_USDC_EIP712_VERSION : String := "2"

/-- Shorthands seen in the wild, refused with a pointer to the id. -/
def SHORTHAND_HINTS : List (String × String) :=
  [("solana", SOLANA_MAINNET_CAIP2), ("solana:mainnet", SOLANA_MAINNET_CAIP2), ("solana-mainnet", SOLANA_MAINNET_CAIP2),
    ("solana:mainnet-beta", SOLANA_MAINNET_CAIP2), ("base", BASE_MAINNET_CAIP2), ("base-mainnet", BASE_MAINNET_CAIP2),
    ("base:mainnet", BASE_MAINNET_CAIP2), ("eip155:base", BASE_MAINNET_CAIP2)]

def MIN_TIMEOUT_SECONDS : ℕ := 10
def MAX_TIMEOUT_SECONDS : ℕ := 3600
def MAX_AMOUNT_ATOMIC : ℕ := 1000000000

def lower (text : String) : List Char := text.toList.map Char.toLower

def between (low high c : Char) : Bool := decide (low.toNat ≤ c.toNat) && decide (c.toNat ≤ high.toNat)

def isHexDigit (c : Char) : Bool := between '0' '9' c || between 'a' 'f' c || between 'A' 'F' c

def isBase58Digit (c : Char) : Bool :=
  between '1' '9' c || between 'A' 'H' c || between 'J' 'N' c || between 'P' 'Z' c || between 'a' 'k' c || between 'm' 'z' c

/-- `EVM_ADDRESS_RE` -/
def isEvmAddress (text : String) : Bool :=
  match text.toList with
  | '0' :: 'x' :: digits => digits.length == 40 && digits.all isHexDigit
  | _ => false

/-- `SVM_ADDRESS_RE` -/
def isSvmAddress (text : String) : Bool :=
  decide (32 ≤ text.toList.length) && decide (text.toList.length ≤ 44) && text.toList.all isBase58Digit

/-- `AMOUNT_RE` -/
def isAmount (text : String) : Bool :=
  match text.toList with
  | first :: rest => decide (first ≠ '0') && (first :: rest).all (between '0' '9') && decide (rest.length ≤ 29)
  | [] => false

namespace SupportedNetwork

def caip2 : SupportedNetwork → String
  | .base => BASE_MAINNET_CAIP2
  | .solana => SOLANA_MAINNET_CAIP2

def usdc : SupportedNetwork → String
  | .base => BASE_USDC
  | .solana => SOLANA_USDC

def isAddress : SupportedNetwork → String → Bool
  | .base => isEvmAddress
  | .solana => isSvmAddress

/-- What `extra` has to carry: the EIP-712 domain on Base, the facilitator on Solana. -/
def accepts (network : SupportedNetwork) (extra : Value) : Bool :=
  match network with
  | .base =>
    stringField extra "name" == some BASE_USDC_EIP712_NAME && stringField extra "version" == some BASE_USDC_EIP712_VERSION
  | .solana => (stringField extra "feePayer").any isSvmAddress

end SupportedNetwork

/-- An exact payment in USDC that may be signed. -/
structure ValidatedRequirement where
  network : SupportedNetwork
  /-- Atomic units, as a decimal string. -/
  amount : String
  payTo : String
  maxTimeoutSeconds : ℕ
  extra : Value
  /-- The entry exactly as the caller sent it. -/
  raw : Value
  amount_wellFormed : isAmount amount = true
  within_ceiling : digitsValue amount.toList ≤ MAX_AMOUNT_ATOMIC
  payTo_wellFormed : network.isAddress payTo = true
  timeout_bounded : MIN_TIMEOUT_SECONDS ≤ maxTimeoutSeconds ∧ maxTimeoutSeconds ≤ MAX_TIMEOUT_SECONDS
  extra_accepted : network.accepts extra = true

namespace ValidatedRequirement

variable (req : ValidatedRequirement)

abbrev asset : String := req.network.usdc

abbrev amountAtomic : ℕ := digitsValue req.amount.toList

end ValidatedRequirement

inductive RequirementError where
  | unsupportedNetwork | unsupportedScheme | unsupportedAsset | invalidRequirement
  deriving DecidableEq, Repr

def RequirementError.code : RequirementError → String
  | .unsupportedNetwork => "X402_UNSUPPORTED_NETWORK"
  | .unsupportedScheme => "X402_UNSUPPORTED_SCHEME"
  | .unsupportedAsset => "X402_UNSUPPORTED_ASSET"
  | .invalidRequirement => "X402_INVALID_REQUIREMENT"

def networkOf (text : String) : Except RequirementError SupportedNetwork :=
  if text = "" then .error .invalidRequirement
  else if (SHORTHAND_HINTS.any fun hint => hint.1.toList == lower text) then .error .unsupportedNetwork
  else if text = BASE_MAINNET_CAIP2 then .ok .base
  else if text = SOLANA_MAINNET_CAIP2 then .ok .solana
  else .error .unsupportedNetwork

/-- The asset, compared without case on Base. -/
def isUsdc (network : SupportedNetwork) (asset : String) : Bool :=
  match network with
  | .base => lower asset == BASE_USDC.toList
  | .solana => asset == SOLANA_USDC

/-- The natural number that a value is. -/
def integerOf : Option Value → Option ℕ
  | some (.number value) => value.toNat?
  | _ => none

/-- The `extra` of an entry, empty where it has none. -/
def extraOf : Option Value → Option Value
  | none => some (.object [])
  | some (.object fields) => some (.object fields)
  | some _ => none

/-- Validate one payment requirement. -/
def validateRequirement (raw : Value) : Except RequirementError ValidatedRequirement :=
  match raw with
  | .object _ =>
    match stringField raw "network" with
    | none => .error .invalidRequirement
    | some text =>
      match networkOf text with
      | .error error => .error error
      | .ok network =>
        if stringField raw "scheme" ≠ some "exact" then .error .unsupportedScheme
        else
          match stringField raw "asset" with
          | none => .error .invalidRequirement
          | some asset =>
            if isUsdc network asset = false then .error .unsupportedAsset
            else
              match stringField raw "amount", stringField raw "payTo", integerOf (raw.field (word "maxTimeoutSeconds")),
                extraOf (raw.field (word "extra")) with
              | some amount, some payTo, some maxTimeoutSeconds, some extra =>
                if valid : isAmount amount = true ∧ digitsValue amount.toList ≤ MAX_AMOUNT_ATOMIC ∧
                    network.isAddress payTo = true ∧
                    (MIN_TIMEOUT_SECONDS ≤ maxTimeoutSeconds ∧ maxTimeoutSeconds ≤ MAX_TIMEOUT_SECONDS) ∧
                    network.accepts extra = true then
                  .ok { network, amount, payTo, maxTimeoutSeconds, extra, raw, amount_wellFormed := valid.1
                        within_ceiling := valid.2.1, payTo_wellFormed := valid.2.2.1
                        timeout_bounded := valid.2.2.2.1, extra_accepted := valid.2.2.2.2 }
                else .error .invalidRequirement
              | _, _, _, _ => .error .invalidRequirement
  | _ => .error .invalidRequirement

/-- The first entry that is valid, or else the error of the first. -/
def selectFirst : List Value → Except RequirementError ValidatedRequirement
  | [] => .error .invalidRequirement
  | entry :: entries =>
    match validateRequirement entry with
    | .ok req => .ok req
    | .error error =>
      match selectFirst entries with
      | .ok req => .ok req
      | .error _ => .error error

/-- Pick the requirement to sign from `accepts`: a single entry, or the array of a 402 answer. -/
def selectRequirement : Value → Except RequirementError ValidatedRequirement
  | .array entries =>
    if entries.length = 0 ∨ 20 < entries.length then .error .invalidRequirement else selectFirst entries
  | entry => validateRequirement entry

/-- The receiver as the hash sees it: Base addresses without case. -/
def boundPayTo (req : ValidatedRequirement) : String :=
  match req.network with
  | .base => String.ofList (lower req.payTo)
  | .solana => req.payTo

def text (value : String) : Value := .string (units value.toList)

/-- The immutable fields an idempotency key is bound to. -/
def requirementHashInput (req : ValidatedRequirement) : Value :=
  .object [(word "scheme", text "exact"), (word "network", text req.network.caip2), (word "asset", text req.asset),
    (word "amount", text req.amount), (word "payTo", text (boundPayTo req)),
    (word "maxTimeoutSeconds", .number (.ofNat req.maxTimeoutSeconds)), (word "extra", req.extra)]

/-- The hash of the immutable fields, with SHA-256 as given. -/
def requirementHash (sha256Hex : Units → String) (req : ValidatedRequirement) : String :=
  sha256Hex (canonicalJson (requirementHashInput req))

/-! ## What canonical JSON tells apart -/

theorem canonicalItems_eq (items : List Value) : canonicalItems items = items.map canonicalJson := by
  induction items with
  | nil => rfl
  | cons item items ih => rw [canonicalItems, ih, map_cons]

theorem canonicalFields_eq (fields : List (Units × Value)) :
    canonicalFields fields = fields.map fun field => (field.1, canonicalJson field.2) := by
  induction fields with
  | nil => rfl
  | cons field fields ih => rw [canonicalFields, ih, map_cons]

theorem canonicalJson_eq (value : Value) : canonicalJson value = value.sortKeys.text := by
  induction value with
  | array items ih =>
    have texts : items.map canonicalJson = (items.map Value.sortKeys).map Value.text := by
      rw [map_map]
      exact map_congr_left ih
    rw [canonicalJson, canonicalItems_eq, texts, Value.sortKeys, Value.text, itemTexts_eq, sortItems_eq]
  | object fields ih =>
    have texts : canonicalFields fields = (sortFields fields).map fun field => (field.1, field.2.text) := by
      rw [canonicalFields_eq, sortFields_eq, map_map]
      exact map_congr_left fun field member => Prod.ext rfl (ih field member)
    rw [canonicalJson, texts, Value.sortKeys, Value.text, fieldTexts_eq]
    rw [map_insertionSort keyOrder keyOrder (fun field : Units × Value => (field.1, field.2.text)) _
      fun first _ second _ => Iff.rfl]
  | _ => rfl

/-- An infinite number is written as null. -/
theorem canonicalJson_written (value : Value) : canonicalJson value.written = canonicalJson value := by
  induction value with
  | number value => cases value <;> rfl
  | array items ih =>
    have texts : (items.map Value.written).map canonicalJson = items.map canonicalJson := by
      rw [map_map]
      exact map_congr_left ih
    rw [Value.written, canonicalJson, canonicalJson, canonicalItems_eq, canonicalItems_eq, writtenItems_eq, texts]
  | object fields ih =>
    have texts : canonicalFields (writtenFields fields) = canonicalFields fields := by
      rw [canonicalFields_eq, canonicalFields_eq, writtenFields_eq, map_map]
      exact map_congr_left fun field member => Prod.ext rfl (ih field member)
    rw [Value.written, canonicalJson, canonicalJson, texts]
  | _ => rfl

/-- Values have one canonical text exactly if they are one value once their keys are in order and their infinite numbers
null. -/
theorem canonicalJson_eq_iff (first second : Value) :
    canonicalJson first = canonicalJson second ↔ first.written.sortKeys = second.written.sortKeys := by
  rw [← canonicalJson_written first, ← canonicalJson_written second, canonicalJson_eq, canonicalJson_eq]
  constructor
  · exact text_injective (Value.sortKeys_finite first.written_finite) (Value.sortKeys_finite second.written_finite)
  · exact congrArg Value.text

/-- Objects with one canonical text have values of one canonical text under each key. -/
theorem canonicalJson_fields {fields others : List (Units × Value)} (nodup : (fields.map Prod.fst).Nodup)
    (also : (others.map Prod.fst).Nodup) (same : canonicalJson (.object fields) = canonicalJson (.object others)) (key : Units) :
    (fields.lookup key).map canonicalJson = (others.lookup key).map canonicalJson := by
  rw [canonicalJson_eq_iff, Value.written, Value.written, Value.sortKeys, Value.sortKeys, Value.object.injEq, sortFields_eq,
    sortFields_eq, writtenFields_eq, writtenFields_eq] at same
  have pair := congrArg (List.lookup key) same
  rw [lookup_sort (by rwa [keys_map, keys_map]), lookup_sort (by rwa [keys_map, keys_map]), lookup_map, lookup_map,
    lookup_map, lookup_map] at pair
  cases found : fields.lookup key with
  | none =>
    cases foundOther : others.lookup key with
    | none => rfl
    | some other => simp [found, foundOther] at pair
  | some value =>
    cases foundOther : others.lookup key with
    | none => simp [found, foundOther] at pair
    | some other =>
      rw [found, foundOther, map_some, map_some, map_some, map_some, some.injEq] at pair
      rw [map_some, map_some, (canonicalJson_eq_iff value other).mpr pair]

theorem text_injective {first second : String} (same : canonicalJson (text first) = canonicalJson (text second)) :
    first = second := by
  rw [canonicalJson_eq_iff] at same
  have units : units first.toList = units second.toList := Value.string.inj same
  exact String.toList_injective (units_injective units)

theorem hashInput_keys (req : ValidatedRequirement) : ∃ fields, requirementHashInput req = .object fields ∧
    (fields.map Prod.fst).Nodup := by
  refine ⟨_, rfl, ?_⟩
  have distinct : [word "scheme", word "network", word "asset", word "amount", word "payTo", word "maxTimeoutSeconds",
    word "extra"].Nodup := by decide
  exact distinct

theorem hashInput_fields {req other : ValidatedRequirement}
    (same : canonicalJson (requirementHashInput req) = canonicalJson (requirementHashInput other)) :
    canonicalJson (text req.network.caip2) = canonicalJson (text other.network.caip2) ∧
      canonicalJson (text req.amount) = canonicalJson (text other.amount) ∧
      canonicalJson (text (boundPayTo req)) = canonicalJson (text (boundPayTo other)) ∧
      canonicalJson (.number (.ofNat req.maxTimeoutSeconds)) = canonicalJson (.number (.ofNat other.maxTimeoutSeconds)) ∧
      canonicalJson req.extra = canonicalJson other.extra := by
  obtain ⟨fields, shape, nodup⟩ := hashInput_keys req
  obtain ⟨others, shapeOther, also⟩ := hashInput_keys other
  have each := canonicalJson_fields nodup also (by rw [← shape, ← shapeOther, same])
  cases shape
  cases shapeOther
  exact ⟨some.inj (each (word "network")), some.inj (each (word "amount")), some.inj (each (word "payTo")),
    some.inj (each (word "maxTimeoutSeconds")), some.inj (each (word "extra"))⟩

theorem caip2_injective {network other : SupportedNetwork} (same : network.caip2 = other.caip2) : network = other := by
  revert same
  cases network <;> cases other <;> decide

/-- Requirements with the same canonical text ask for the same amount of the same network's coin, for one receiver. -/
theorem hashInput_binds {req other : ValidatedRequirement}
    (same : canonicalJson (requirementHashInput req) = canonicalJson (requirementHashInput other)) :
    req.network = other.network ∧ req.amount = other.amount ∧ boundPayTo req = boundPayTo other := by
  obtain ⟨network, amount, payTo, -, -⟩ := hashInput_fields same
  exact ⟨caip2_injective (text_injective network), text_injective amount, text_injective payTo⟩

end MppRouter.X402Payer
