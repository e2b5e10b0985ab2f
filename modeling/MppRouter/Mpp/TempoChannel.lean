import Mathlib.Algebra.Group.Int.Defs
import Mathlib.Algebra.Group.Basic
import MppRouter.Core.Typestate
import MppRouter.Proxy.TempoLeg

/-! # The watermark of a Tempo channel

The router keeps one record for each channel it has opened against a merchant. A call reads the record, signs a
voucher over the stored cumulative amount and what the merchant asks, and has the new amount written back: once
by a callback of the payment library, as soon as the voucher is signed, and once more after the merchant has
answered well. Each of these updates reads the record and writes it back later as a whole.
-/

namespace MppRouter.Mpp.TempoChannel

open Concurrent Decimal Proxy Function

/-! ## Records -/

/-- The record of a channel, with the fields that only the operator reads. -/
structure ChannelRecord where
  channel : TempoChannelState
  authorizedSigner : String
  descriptor : Option String
  openedAt : String
  lastVoucherAt : Option ℕ
  deriving DecidableEq, Repr

/-- The record of a merchant, and the one that stands beside it while the key of the router is replaced. -/
inductive Slot where
  | primary | alternate
  deriving DecidableEq, Repr

/-- Can the router sign for this channel? Without a key there is nothing to compare. -/
def signedByRouter (router : Option String) (record : ChannelRecord) : Bool :=
  router.all fun address => lower record.authorizedSigner = lower address

/-- The record once a voucher over this amount is signed. -/
def ChannelRecord.bump (record : ChannelRecord) (cumulativeRaw now : ℕ) : ChannelRecord :=
  { record with channel := { record.channel with cumulativeRaw }, lastVoucherAt := some now }

/-- What no update may change. -/
def ChannelRecord.settings (record : ChannelRecord) : ChannelRecord :=
  { record with channel := { record.channel with cumulativeRaw := 0 }, lastVoucherAt := none }

/-! ## What a call signs -/

/-- How far a caller binds the challenge. -/
structure SessionOpts where
  maxAmountRaw : Option ℕ := none
  expectedAmountRaw : Option String := none
  deriving DecidableEq, Repr

/-- The cumulative amount after a payment, unless it exceeds the deposit where that is known. -/
def nextSessionCumulative (channel : TempoChannelState) (delta : ℤ) : Except LegError ℤ :=
  if withinDeposit channel delta then .ok (channel.cumulativeRaw + delta) else .error .channelDepositExhausted

/-- The cumulative amount that a challenge is answered with. -/
def onChallenge (opts : SessionOpts) (channel : TempoChannelState) (challenge : Challenge) : Except LegError ℤ :=
  if (sessionChallengeMismatch challenge.request channel).isSome then .error .sessionChallengeMismatch
  else if !isDigits challenge.request.amount.toList then .error .unreadableAmount
  else match bigInt challenge.request.amount with
    | none => .error .unreadableAmount
    | some delta =>
      if opts.maxAmountRaw.any fun most : ℕ => (most : ℤ) < delta then .error .budgetExceeded
      else if opts.expectedAmountRaw.any fun expected => challenge.request.amount ≠ expected then
        .error .sessionChallengeMismatch
      else nextSessionCumulative channel delta

/-! ## The world -/

/-- A watermark that is to be written back. -/
structure Update where
  router : Option String
  cumulativeRaw : ℤ
  deriving DecidableEq, Repr

structure World where
  store : Slot → Option ChannelRecord
  /-- The vouchers signed so far. -/
  signed : List Update
  /-- The updates that have not begun. -/
  updates : List Update
  /-- The updates that have begun and not finished. -/
  bumping : List (ℕ × Update)
  /-- What each party has read last. -/
  reads : ℕ → Option ChannelRecord
  /-- The other fields of the records, as the operator has set them. -/
  settings : Slot → Option ChannelRecord

def World.start (store : Slot → Option ChannelRecord) : World where
  store := store
  signed := []
  updates := []
  bumping := []
  reads _ := none
  settings slot := (store slot).map ChannelRecord.settings

inductive Action where
  | readSlot (slot : Slot)
  | putSlot (slot : Slot) (record : ChannelRecord)
  | now
  /-- The call without a credential. -/
  | fetch
  /-- The challenge that the payment library chooses among these. -/
  | pick (candidates : List Challenge)
  /-- Sign a voucher; the library reports the new watermark. -/
  | createCredential (router : Option String) (cumulativeRaw : ℤ)
  /-- The merchant's answer: did it go well? -/
  | response
  /-- Have a watermark written back beside the answer. -/
  | waitUntil (router : Option String) (cumulativeRaw : ℤ)
  /-- Begin with an update that is due. -/
  | takeUpdate
  /-- An update has finished. -/
  | finished
  /-- The operator has raised the deposit. -/
  | topUp (slot : Slot) (depositRaw : ℕ)
  deriving DecidableEq

@[reducible] def Action.Answer : Action → Type
  | .readSlot _ => Option ChannelRecord
  | .now => ℕ
  | .fetch => Requote
  | .pick _ => Option Challenge
  | .createCredential _ _ => Bool
  | .response => Option Bool
  | .takeUpdate => Update
  | .putSlot _ _ | .waitUntil _ _ | .finished | .topUp _ _ => Unit

/-- What the code does not decide. -/
structure Choice where
  now : ℕ := 0
  requote : Requote := .answered
  pick : Option Challenge := none
  /-- The library signs; else it throws. -/
  signs : Bool := true
  response : Option Bool := some true
  /-- Which update begins. -/
  update : ℕ := 0
  deriving DecidableEq, Repr

def Choice.plain : Choice := { now := 0 }

def ChannelRecord.topUp (depositRaw : ℕ) (record : ChannelRecord) : ChannelRecord :=
  { record with channel := { record.channel with depositRaw := some depositRaw } }

def perform (tid : ℕ) : (action : Action) → Choice → World → Option (action.Answer × World)
  | .readSlot slot, _, world =>
    some (world.store slot, { world with reads := Function.update world.reads tid (world.store slot) })
  | .putSlot slot record, _, world => some ((), { world with store := Function.update world.store slot (some record) })
  | .now, choice, world => some (choice.now, world)
  | .fetch, choice, world => some (choice.requote, world)
  | .pick _, choice, world => some (choice.pick, world)
  | .createCredential router cumulativeRaw, choice, world =>
    some (choice.signs, if choice.signs then
      { world with signed := ⟨router, cumulativeRaw⟩ :: world.signed, updates := ⟨router, cumulativeRaw⟩ :: world.updates }
      else world)
  | .response, choice, world => some (choice.response, world)
  | .waitUntil router cumulativeRaw, _, world =>
    some ((), { world with updates := ⟨router, cumulativeRaw⟩ :: world.updates })
  | .takeUpdate, choice, world =>
    world.updates[choice.update]?.map fun update => (update,
      { world with updates := world.updates.eraseIdx choice.update, bumping := (tid, update) :: world.bumping })
  | .finished, _, world => some ((), { world with bumping := world.bumping.filter fun entry => entry.1 ≠ tid })
  | .topUp slot depositRaw, _, world =>
    some ((), { world with
      store := Function.update world.store slot ((world.store slot).map (ChannelRecord.topUp depositRaw))
      settings := Function.update world.settings slot ((world.settings slot).map (ChannelRecord.topUp depositRaw)) })

abbrev tempoMachine : Machine :=
  ⟨Action, Action.Answer, Choice, World, perform⟩

abbrev Tempo (α : Type) := Prog Action Action.Answer α

/-! ## The programs -/

/-- The slot with a channel that the router can sign for. -/
def resolveChannel (router : Option String) : Tempo (Option (Slot × ChannelRecord)) := do
  let primary ← Prog.call (Action.readSlot .primary)
  match primary.filter (signedByRouter router) with
  | some record => pure (some (.primary, record))
  | none =>
    let alternate ← Prog.call (Action.readSlot .alternate)
    pure ((alternate.filter (signedByRouter router)).map fun record => (.alternate, record))

/-- Raise the watermark; false when it throws. -/
def bumpCumulative (router : Option String) (newCumulativeRaw : ℤ) : Tempo Bool := do
  if newCumulativeRaw < 0 then pure false
  else
    match ← resolveChannel router with
    | none => pure false
    | some (slot, current) =>
      if newCumulativeRaw ≤ current.channel.cumulativeRaw then pure true
      else
        let now ← Prog.call Action.now
        Prog.call (Action.putSlot slot (current.bump newCumulativeRaw.toNat now))
        pure true

/-- Carry out an update that is due. -/
def bumpNext : Tempo Unit := do
  let update ← Prog.call Action.takeUpdate
  let _ ← bumpCumulative update.router update.cumulativeRaw
  Prog.call Action.finished

/-- Pay a merchant out of its channel: the record that was read, and whether the answer is good; nothing when it
throws. -/
def payMerchantSession (router : Option String) (opts : SessionOpts) : Tempo (Option (ChannelRecord × Bool)) := do
  match ← resolveChannel router with
  | none => pure none
  | some (_, record) =>
    match ← Prog.call Action.fetch with
    | .threw => pure none
    | .answered =>
      let response ← Prog.call Action.response
      pure (response.map fun ok => (record, ok))
    | .challenged offers =>
      match ← Prog.call (Action.pick (filterPayableCandidates offers record.channel)) with
      | none => pure none
      | some challenge =>
        match onChallenge opts record.channel challenge with
        | .error _ => pure none
        | .ok cumulativeRaw =>
          if ← Prog.call (Action.createCredential router cumulativeRaw) then
            let response ← Prog.call Action.response
            pure (response.map fun ok => (record, ok))
          else pure none

/-- The same of a proxied call: the watermark is written once more after a good answer. -/
def proxySession (router : Option String) (amount : String) : Tempo Unit := do
  match ← payMerchantSession router { expectedAmountRaw := some amount } with
  | some (channelBefore, true) =>
    match bigInt amount with
    | none => pure ()
    | some delta => Prog.call (Action.waitUntil router (channelBefore.channel.cumulativeRaw + delta))
  | _ => pure ()

inductive Job where
  | proxied (router : Option String) (amount : String)
  | direct (router : Option String) (opts : SessionOpts)
  | bump
  | topUp (slot : Slot) (depositRaw : ℕ)
  | idle
  deriving DecidableEq

def Job.thread : Job → Tempo Unit
  | .proxied router amount => proxySession router amount
  | .direct router opts => do
    let _ ← payMerchantSession router opts
    pure ()
  | .bump => bumpNext
  | .topUp slot depositRaw => Prog.call (Action.topUp slot depositRaw)
  | .idle => pure ()

end MppRouter.Mpp.TempoChannel
