import MppRouter.Core.Decimal

/-! # What the router signs to a Tempo merchant

A proxied call reads the merchant's price from a first 402, charges the buyer for it and then pays: the
payment library sends the call once more and answers whatever challenge the merchant sets this time. The
session leg binds that challenge to the quote before it signs; the charge leg does not look at it.
-/

namespace MppRouter.Proxy

open Decimal

/-! ## Challenges -/

/-- The payment request of a challenge, as far as it is read. -/
structure ChallengeRequest where
  amount : String
  currency : Option String := none
  recipient : Option String := none
  /-- A number; a fraction is refused wherever a negative one is. -/
  decimals : Option ℤ := none
  escrowContract : Option String := none
  chainId : Option ℤ := none
  deriving DecidableEq, Repr

structure Challenge where
  id : String
  intent : String := "charge"
  request : ChallengeRequest
  deriving DecidableEq, Repr

def lower (text : String) : List Char := text.toList.map Char.toLower

def Challenge.isSession (challenge : Challenge) : Bool := lower challenge.intent = lower "session"

/-- A channel the router opened against a merchant. -/
structure TempoChannelState where
  channelId : String
  escrowContract : String
  payee : String
  currency : String
  chainId : ℤ
  cumulativeRaw : ℕ
  /-- Absent where it does not read as a number. -/
  depositRaw : Option ℕ
  deriving DecidableEq, Repr

inductive ChallengeMismatch where
  | currency | payee | escrow | chain | decimals
  deriving DecidableEq, Repr

/-- Two texts that are there and agree up to case. -/
def same (a : Option String) (b : String) : Bool := a.any fun a => lower a = lower b

/-- Which field, if any, stops this challenge from being paid from the channel. -/
def sessionChallengeMismatch (request : ChallengeRequest) (channel : TempoChannelState) : Option ChallengeMismatch :=
  if !same request.currency channel.currency then some .currency
  else if !same request.recipient channel.payee then some .payee
  else if !same request.escrowContract channel.escrowContract then some .escrow
  else if request.chainId ≠ some channel.chainId then some .chain
  else if request.decimals.any (· ≠ 6) then some .decimals
  else none

/-! ## The quote -/

inductive Refusal where
  | unparseable | channelNotInstalled | noSessionChallenge | noMatchingChallenge | unreadableQuote | currencyMismatch
  | channelClosing | insufficientHeadroom | readFailed | poolInsufficient | decimals | amount | underpay | overpay
  deriving DecidableEq, Repr

/-- The one session challenge payable from the channel. -/
def selectSessionChallenge (challenges : List Challenge) (channel : TempoChannelState) : Except Refusal Challenge :=
  let sessions := challenges.filter Challenge.isSession
  if sessions.isEmpty then .error .noSessionChallenge
  else match sessions.find? fun challenge => (sessionChallengeMismatch challenge.request channel).isNone with
    | none => .error .noMatchingChallenge
    | some challenge => .ok challenge

/-- The probe's 402: what the router's own parser makes of its header, and the payment library's list. -/
structure Quoted402 where
  first : Option Challenge
  /-- Absent when any challenge of the header is malformed. -/
  offered : Option (List Challenge)
  deriving DecidableEq, Repr

/-- The challenge that the call is quoted and charged by. -/
def selectChallenge (sessionRoute : Bool) (probe : Quoted402) (channel : Option TempoChannelState) :
    Except Refusal Challenge :=
  match probe.offered with
  | none => .error .unparseable
  | some offered =>
    if offered.any Challenge.isSession ∧ (sessionRoute ∨ offered.head?.any Challenge.isSession) then
      match channel with
      | none => .error .channelNotInstalled
      | some channel => selectSessionChallenge offered channel
    else match probe.first with
      | none => .error .unparseable
      | some challenge => .ok challenge

structure ChannelChainState where
  deposit : ℤ
  settled : ℤ
  closeRequestedAt : ℤ
  deriving DecidableEq, Repr

def sessionHeadroomSafetyFactor : ℤ := 2

def evaluateSessionPreflight (channel : TempoChannelState) (challengeCurrency : String) (quoteRaw : ℤ)
    (state : ChannelChainState) : Option Refusal :=
  if lower channel.currency ≠ lower challengeCurrency then some .currencyMismatch
  else if state.closeRequestedAt ≠ 0 then some .channelClosing
  else
    let used := max (channel.cumulativeRaw : ℤ) state.settled
    if state.deposit - used < quoteRaw * sessionHeadroomSafetyFactor then some .insufficientHeadroom else none

/-- The router's funds, as the pre-flight check reads them. -/
structure Funds where
  channel : Option TempoChannelState
  chain : Option ChannelChainState
  /-- The Tempo pool, in the quoted token. -/
  tempoBalance : Option ℤ
  deriving DecidableEq, Repr

/-- Nothing is charged for a call that the router could not pay. -/
def preflight (quote : Challenge) (funds : Funds) : Option Refusal :=
  match bigInt quote.request.amount, quote.isSession with
  | none, true => some .unreadableQuote
  | none, false => none
  | some quoteRaw, true =>
    match funds.channel, funds.chain with
    | none, _ => some .channelNotInstalled
    | some _, none => some .readFailed
    | some channel, some chain =>
      evaluateSessionPreflight channel (quote.request.currency.getD "") quoteRaw chain
  | some quoteRaw, false => if funds.tempoBalance.any (· < quoteRaw) then some .poolInsufficient else none

/-! ## The buyer's payment -/

/-- How the buyer pays; an x402 payload states the amount it signs. -/
inductive Inbound where
  | x402 (signed : ℤ)
  | charge
  | channel
  deriving DecidableEq, Repr

def absoluteOverpayTolerance : ℤ := 1000000

/-- The amount signed covers the quote, and exceeds it by no more than the tolerance. -/
def isAmountAcceptable (signed merchant : ℤ) : Option Refusal :=
  if signed < merchant then some .underpay
  else if signed - merchant ≤ absoluteOverpayTolerance ∨ signed - merchant ≤ merchant / 10 then none
  else some .overpay

/-- An optional sign and decimal digits. -/
def isIntegerText (text : String) : Bool := (parseInt text.toList).isSome

/-- The amount that the buyer's payment is verified against, in base units of the quote. -/
def Inbound.quoted (inbound : Inbound) (quote : Challenge) : Except Refusal ℤ :=
  let decimals := quote.request.decimals.getD 6
  match inbound, bigInt quote.request.amount with
  | .x402 signed, some units =>
    if decimals ≠ 6 then .error .decimals
    else match isAmountAcceptable signed (units * 10) with
      | some refusal => .error refusal
      | none => .ok units
  | .x402 _, none => .error .amount
  | .charge, units | .channel, units =>
    if decimals < 0 ∨ 7 < decimals then .error .decimals
    else if !isIntegerText quote.request.amount then .error .amount
    else match units with
      | some units => .ok units
      | none => .error .amount

/-! ## The payment -/

/-- What the merchant answers to the call that pays, before it is paid. -/
inductive Requote where
  | threw
  /-- Not a 402: nothing is to pay. -/
  | answered
  | challenged (offers : List Challenge)
  deriving DecidableEq, Repr

inductive LegError where
  | transport | noMethod | manualSession | unreadableAmount | channelNotInstalled | sessionChallengeMismatch
  | channelDepositExhausted | budgetExceeded
  deriving DecidableEq, Repr

/-- What the router signed to the merchant, if anything. -/
abbrev Signature := Except LegError (Option ℤ)

/-- The challenge that the payment library answers, among its candidates. -/
abbrev Pick := List Challenge → Option Challenge

/-- Pay whatever the merchant asks; a session challenge needs a voucher context that this leg has not. -/
def payMerchant (pick : Pick) : Requote → Signature
  | .threw => .error .transport
  | .answered => .ok none
  | .challenged offers =>
    match pick offers with
    | none => .error .noMethod
    | some challenge =>
      if challenge.isSession then .error .manualSession
      else match bigInt challenge.request.amount with
        | none => .error .unreadableAmount
        | some amount => .ok (some amount)

def filterPayableCandidates (candidates : List Challenge) (channel : TempoChannelState) : List Challenge :=
  candidates.filter fun challenge =>
    challenge.isSession && (sessionChallengeMismatch challenge.request channel).isNone

/-- The voucher stays within the channel's deposit, where that is known. -/
def withinDeposit (channel : TempoChannelState) (delta : ℤ) : Bool :=
  channel.depositRaw.all fun deposit => (channel.cumulativeRaw : ℤ) + delta ≤ deposit

/-- Sign a voucher for a challenge that asks for exactly the expected amount, in the channel's token. -/
def signVoucher (channel : TempoChannelState) (expectedAmountRaw : String) (challenge : Challenge) : Signature :=
  if (sessionChallengeMismatch challenge.request channel).isSome then .error .sessionChallengeMismatch
  else if !isDigits challenge.request.amount.toList then .error .unreadableAmount
  else if challenge.request.amount ≠ expectedAmountRaw then .error .sessionChallengeMismatch
  else match bigInt challenge.request.amount with
    | none => .error .unreadableAmount
    | some delta =>
      if withinDeposit channel delta then .ok (some delta) else .error .channelDepositExhausted

def payMerchantSession (pick : Pick) (channel : Option TempoChannelState) (expectedAmountRaw : String) :
    Requote → Signature
  | requote =>
    match channel with
    | none => .error .channelNotInstalled
    | some channel =>
      match requote with
      | .threw => .error .transport
      | .answered => .ok none
      | .challenged offers =>
        match pick (filterPayableCandidates offers channel) with
        | none => .error .sessionChallengeMismatch
        | some challenge => signVoucher channel expectedAmountRaw challenge

/-- The leg follows the intent of the quote. -/
def payLeg (pick : Pick) (quote : Challenge) (channel : Option TempoChannelState) (requote : Requote) : Signature :=
  if quote.isSession then payMerchantSession pick channel quote.request.amount requote
  else payMerchant pick requote

/-! ## A proxied call -/

/-- Everything outside the router that a proxied call on a Tempo route meets; the channel is read again for
the payment. -/
structure ProxiedCall where
  sessionRoute : Bool
  probe : Quoted402
  channel : Option TempoChannelState
  funds : Funds
  inbound : Inbound
  channelNow : Option TempoChannelState
  requote : Requote
  deriving DecidableEq, Repr

namespace ProxiedCall

variable (call : ProxiedCall)

/-- The quote, and the amount that the buyer's payment was verified against. -/
def accepted : Except Refusal (Challenge × ℤ) := do
  let quote ← selectChallenge call.sessionRoute call.probe call.channel
  match preflight quote call.funds with
  | some refusal => .error refusal
  | none =>
    let quoted ← call.inbound.quoted quote
    pure (quote, quoted)

/-- What an accepted call signs to the merchant. -/
def signs (pick : Pick) : Option ℤ :=
  match call.accepted with
  | .error _ => none
  | .ok (quote, _) =>
    match payLeg pick quote call.channelNow call.requote with
    | .error _ => none
    | .ok signed => signed

/-- The merchant is authorised at most what the buyer was charged. -/
def Covered (pick : Pick) : Prop :=
  ∀ signed, call.signs pick = some signed → ∃ quote quoted, call.accepted = .ok (quote, quoted) ∧ signed ≤ quoted

/-- What the challenge that the library picks asks for, when a charge can answer it. -/
def asked (pick : Pick) : Option ℤ :=
  match call.requote with
  | .challenged offers => ((pick offers).filter fun challenge => !challenge.isSession).bind fun challenge =>
      bigInt challenge.request.amount
  | _ => none

end ProxiedCall

theorem payMerchant_signs {pick : Pick} {call : ProxiedCall} {signed : ℤ} :
    payMerchant pick call.requote = .ok (some signed) ↔ call.asked pick = some signed := by
  unfold ProxiedCall.asked
  cases call.requote with
  | threw => simp [payMerchant]
  | answered => simp [payMerchant]
  | challenged offers =>
    simp only [payMerchant]
    cases pick offers with
    | none => simp
    | some challenge =>
      cases session : challenge.isSession with
      | true => simp [session, Option.filter]
      | false =>
        cases read : bigInt challenge.request.amount <;> simp [session, Option.filter, read]

theorem signVoucher_exact {channel : TempoChannelState} {expected : String} {challenge : Challenge} {signed : ℤ}
    (voucher : signVoucher channel expected challenge = .ok (some signed)) : bigInt expected = some signed := by
  unfold signVoucher at voucher
  split_ifs at voucher with mismatch unreadable requoted
  rw [not_not] at requoted
  rw [← requoted]
  cases read : bigInt challenge.request.amount with
  | none => simp [read] at voucher
  | some delta =>
    simp only [read] at voucher
    split_ifs at voucher
    cases voucher
    rfl

theorem payMerchantSession_exact {pick : Pick} {channel : Option TempoChannelState} {expected : String}
    {requote : Requote} {signed : ℤ}
    (voucher : payMerchantSession pick channel expected requote = .ok (some signed)) :
    bigInt expected = some signed := by
  unfold payMerchantSession at voucher
  cases channel with
  | none => cases voucher
  | some channel =>
    cases requote with
    | threw => cases voucher
    | answered => cases voucher
    | challenged offers =>
      dsimp only at voucher
      cases picked : pick (filterPayableCandidates offers channel) with
      | none =>
        rw [picked] at voucher
        cases voucher
      | some challenge =>
        rw [picked] at voucher
        exact signVoucher_exact voucher

/-- The buyer's payment is verified against the amount that the quote states. -/
theorem Inbound.quoted_reads {inbound : Inbound} {quote : Challenge} {units : ℤ}
    (verified : inbound.quoted quote = .ok units) : bigInt quote.request.amount = some units := by
  unfold Inbound.quoted at verified
  cases read : bigInt quote.request.amount with
  | none =>
    rw [read] at verified
    cases inbound with
    | x402 signed => cases verified
    | charge | channel =>
      simp only at verified
      split_ifs at verified
  | some value =>
    rw [read] at verified
    cases inbound with
    | x402 signed =>
      simp only at verified
      split_ifs at verified
      cases acceptable : isAmountAcceptable signed (value * 10) with
      | some refusal =>
        rw [acceptable] at verified
        cases verified
      | none =>
        rw [acceptable] at verified
        cases verified
        rfl
    | charge | channel =>
      simp only at verified
      split_ifs at verified
      cases verified
      rfl

theorem ProxiedCall.accepted_reads {call : ProxiedCall} {quote : Challenge} {quoted : ℤ}
    (outcome : call.accepted = .ok (quote, quoted)) : bigInt quote.request.amount = some quoted := by
  unfold ProxiedCall.accepted at outcome
  cases selected : selectChallenge call.sessionRoute call.probe call.channel with
  | error refusal =>
    rw [selected] at outcome
    cases outcome
  | ok challenge =>
    simp only [selected, bind, Except.bind] at outcome
    cases refused : preflight challenge call.funds with
    | some refusal =>
      rw [refused] at outcome
      cases outcome
    | none =>
      simp only [refused] at outcome
      cases verified : call.inbound.quoted challenge with
      | error refusal =>
        rw [verified] at outcome
        cases outcome
      | ok units =>
        rw [verified] at outcome
        cases outcome
        exact Inbound.quoted_reads verified

/-- The session leg never signs more than was charged; the charge leg keeps to it exactly when the merchant
does. -/
theorem charge_covered_iff (pick : Pick) (call : ProxiedCall) : call.Covered pick ↔
    ∀ quote quoted, call.accepted = .ok (quote, quoted) → quote.isSession = true ∨
      ∀ asked, call.asked pick = some asked → asked ≤ quoted := by
  cases outcome : call.accepted with
  | error refusal =>
    have unsigned : call.signs pick = none := by simp only [ProxiedCall.signs, outcome]
    constructor
    · rintro - quote quoted ⟨⟩
    · intro _ signed signs
      rw [unsigned] at signs
      cases signs
  | ok accepted =>
    obtain ⟨quote, quoted⟩ := accepted
    have reads := ProxiedCall.accepted_reads outcome
    constructor
    · rintro covered _ _ ⟨⟩
      by_cases session : quote.isSession = true
      · exact .inl session
      · refine .inr fun asked asks => ?_
        have signs : call.signs pick = some asked := by
          have pays := payMerchant_signs.mpr asks
          simp only [ProxiedCall.signs, outcome, payLeg, session, Bool.false_eq_true, if_false, pays]
        obtain ⟨_, _, same, bound⟩ := covered asked signs
        rw [outcome] at same
        cases same
        exact bound
    · intro bound signed signs
      refine ⟨quote, quoted, outcome, ?_⟩
      simp only [ProxiedCall.signs, outcome] at signs
      have pays : payLeg pick quote call.channelNow call.requote = .ok (some signed) := by
        cases pays : payLeg pick quote call.channelNow call.requote with
        | error failure =>
          rw [pays] at signs
          cases signs
        | ok signature =>
          rw [pays] at signs
          rw [show signature = some signed from signs]
      unfold payLeg at pays
      by_cases session : quote.isSession = true
      · rw [if_pos session] at pays
        have voucher := payMerchantSession_exact pays
        rw [reads] at voucher
        have charged := Option.some.inj voucher
        omega
      · rw [if_neg session] at pays
        rcases bound quote quoted rfl with isSession | keeps
        · exact absurd isSession session
        · exact keeps signed (payMerchant_signs.mp pays)

/-! ## A merchant that asks for more -/

def priced (amount : String) : Challenge := { id := "challenge", request := { amount } }

/-- Quoted one cent, asked for two. -/
def requotedCall : ProxiedCall :=
  { sessionRoute := false, probe := ⟨some (priced "10000"), some [priced "10000"]⟩, channel := none
    funds := ⟨none, none, some 5000000⟩, inbound := .charge, channelNow := none
    requote := .challenged [priced "20000"] }

theorem requoted_price_is_signed : ¬ requotedCall.Covered List.head? := by
  intro covered
  obtain ⟨quote, quoted, accepted, bound⟩ := covered 20000 (by decide)
  have charged : requotedCall.accepted = .ok (priced "10000", 10000) := by decide
  rw [charged] at accepted
  cases accepted
  omega

end MppRouter.Proxy
