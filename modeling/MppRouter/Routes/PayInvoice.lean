import MppRouter.Routes.InvoiceClaim

/-! # The pay-invoice executor for Coinbase links

The Coinbase webhook, the coupon redemption and the UPI channel all send their payment to one executor.
What they read of its answer, and the test ids that are never sent, are the same for all of them.
-/

namespace MppRouter.Routes

/-- A text, with the number JavaScript makes of it, if it makes one. -/
structure Reading where
  text : String
  value : Option ℤ
  deriving DecidableEq, Repr

/-! ## Test ids -/

def hexDigit (c : Char) : Option ℕ :=
  if '0' ≤ c ∧ c ≤ '9' then some (c.toNat - '0'.toNat)
  else if 'a' ≤ c ∧ c ≤ 'f' then some (c.toNat - 'a'.toNat + 10)
  else if 'A' ≤ c ∧ c ≤ 'F' then some (c.toNat - 'A'.toNat + 10)
  else none

/-- A multi-byte character being decoded: the bytes to come, the code point so far and the least one
that needs so many bytes. -/
structure Partial where
  missing : ℕ
  codePoint : ℕ
  least : ℕ
  deriving DecidableEq, Repr

/-- The first byte of a character. -/
def Partial.start (byte : ℕ) : Option Partial :=
  if byte < 0x80 then some ⟨0, byte, 0⟩
  else if byte < 0xC0 then none
  else if byte < 0xE0 then some ⟨1, byte - 0xC0, 0x80⟩
  else if byte < 0xF0 then some ⟨2, byte - 0xE0, 0x800⟩
  else if byte < 0xF8 then some ⟨3, byte - 0xF0, 0x10000⟩
  else none

def Partial.add (character : Partial) (byte : ℕ) : Option Partial :=
  if 0x80 ≤ byte ∧ byte < 0xC0 then
    some ⟨character.missing - 1, character.codePoint * 64 + (byte - 0x80), character.least⟩
  else none

/-- A complete character that is not overlong, no surrogate and in range. -/
def Partial.toChar (character : Partial) : Option Char :=
  if character.least ≤ character.codePoint ∧ character.codePoint.isValidChar then
    some (Char.ofNat character.codePoint)
  else none

/-- Decode the percent escapes of a text, when they are well formed. -/
def decodeURIComponent (unfinished : Option Partial) : List Char → Option (List Char)
  | [] => if unfinished.isNone then some [] else none
  | '%' :: high :: low :: rest =>
    match hexDigit high, hexDigit low with
    | some high, some low =>
      let byte := 16 * high + low
      match unfinished.elim (Partial.start byte) fun character => character.add byte with
      | none => none
      | some character =>
        if character.missing = 0 then
          match character.toChar, decodeURIComponent none rest with
          | some decoded, some text => some (decoded :: text)
          | _, _ => none
        else decodeURIComponent (some character) rest
    | _, _ => none
  | c :: rest =>
    if c = '%' ∨ unfinished.isSome then none
    else (decodeURIComponent none rest).map (c :: ·)

def mentionsTestId (text : List Char) : Bool := decide ("rozotest_".toList <:+: text.map Char.toLower)

/-- The id is one of a test order, written plainly or with escapes. -/
def containsTestPaymentId (id : String) : Bool :=
  mentionsTestId id.toList || mentionsTestId ((decodeURIComponent none id.toList).getD id.toList)

/-! ## Answers -/

structure LinkUsage where
  usageCount : Option ℤ := none
  maxUsage : Option ℤ := none
  deriving DecidableEq, Repr

structure CoinbaseOutcome where
  captured : Option Bool := none
  sessionStatus : Option String := none
  link : Option LinkUsage := none
  deriving DecidableEq, Repr

/-- The fields of an answer's body that are read. -/
structure AgentBody where
  errorCode : Option String := none
  paymentAttempted : Option Bool := none
  success : Option Bool := none
  captured : Option Bool := none
  sessionStatus : Option String := none
  link : Option LinkUsage := none
  coinbase : Option CoinbaseOutcome := none
  /-- The text fields. -/
  texts : List (String × String) := []
  deriving DecidableEq, Repr

/-- What comes back from the executor; a body that is no object is absent. -/
inductive AgentReply where
  | threw
  | answered (status : ℕ) (body : Option AgentBody)
  deriving DecidableEq, Repr

def AgentReply.ok : AgentReply → Bool
  | .threw => false
  | .answered status _ => 200 ≤ status ∧ status < 300

/-- Refused before any signature: the only answer that rules a payment out. -/
def isPreSignBindingMismatch : AgentReply → Bool
  | .threw => false
  | .answered status body => status = 422 ∧ body.any fun body =>
      body.errorCode = some "PRE_SIGN_BINDING_MISMATCH" ∧ body.paymentAttempted = some false

/-- The reference of a payment: the first of these text fields that is neither empty nor overlong. -/
def pickExecutionRef (texts : List (String × String)) : Option String :=
  ["txHash", "transactionHash", "tx_hash", "paymentId", "id"].findSome? fun key =>
    (texts.lookup key).filter fun value => 0 < value.length ∧ value.length ≤ 128

end MppRouter.Routes
