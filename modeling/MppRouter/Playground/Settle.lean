import MppRouter.Core.Embed
import MppRouter.Playground.ChannelBooks

/-! # Settling a channel

Every two minutes a cron collects what was spent on a channel: under the same lock that a call holds, it
reads the latest voucher, marks the channel closed and fenced and submits the voucher on chain. Calls and
settlement runs share the channel's keys; besides, the world remembers what the calls have done so far.
-/

namespace MppRouter.Playground.Channel

open Concurrent

/-- Collect once the unsettled amount reaches $0.20, even when the channel is not closing. -/
def settleThresholdRaw : ℤ := 2000000

/-- What the chain reports of a channel. -/
structure ChannelState where
  /-- The funder has started to close. -/
  closing : Bool
  /-- A balance is reported, and it is exactly zero. -/
  emptied : Bool
  deriving DecidableEq, Repr

inductive CloseOutcome where
  | collected (txHash : String)
  /-- The close failed with "balance is not sufficient". -/
  | insufficient
  /-- The signature does not decode, or the close failed otherwise. -/
  | threw
  deriving DecidableEq, Repr

/-- The write-offs of all channels, and whether this channel is among them. -/
structure Writeoffs where
  count : ℕ := 0
  totalRaw : ℤ := 0
  counted : Bool := false
  deriving DecidableEq, Repr

structure SettleWorld where
  channel : World
  /-- The terminal write-off record of the channel. -/
  writeoff : Option ℤ
  writeoffs : Writeoffs
  /-- The vouchers that calls have seen accepted: who, and the cumulative amount. -/
  accepted : List (ℕ × ℤ)
  /-- The calls whose upstream was paid. -/
  paid : List ℕ
  /-- The calls that have read the markers after one of them was written. -/
  late : List ℕ

def SettleWorld.initial : SettleWorld := ⟨.initial, none, {}, [], [], []⟩

/-! ## Updates -/

/-- Record an amount as settled on chain; the record never falls. -/
def markVoucherSettled (settledRaw : ℤ) (current : Option LatestVoucher) : Option LatestVoucher :=
  match current with
  | none => none
  | some voucher =>
    if voucher.lastSettledRaw ≥ settledRaw then some voucher else some { voucher with lastSettledRaw := settledRaw }

/-- The first write-off of a channel stays. -/
def recordWriteoff (cumulativeRaw : ℤ) (current : Option ℤ) : Option ℤ :=
  match current with
  | some recorded => some recorded
  | none => some cumulativeRaw

/-- Count a channel once. -/
def countWriteoff (cumulativeRaw : ℤ) (current : Writeoffs) : Writeoffs :=
  if current.counted then current else ⟨current.count + 1, current.totalRaw + cumulativeRaw, true⟩

/-! ## The machine -/

inductive SettleAction where
  | call (action : Action)
  | recordWriteoff (cumulativeRaw : ℤ)
  | countWriteoff (cumulativeRaw : ℤ)
  | markVoucherSettled (settledRaw : ℤ)
  | getChannelState
  | close (amount : ℤ) (signature : String)
  deriving DecidableEq

@[reducible] def SettleAction.Answer : SettleAction → Type
  | .call action => action.Answer
  | .recordWriteoff _ | .countWriteoff _ | .markVoucherSettled _ => Option Unit
  | .getChannelState => Option ChannelState
  | .close _ _ => CloseOutcome

structure SettleChoice where
  call : Choice := .plain
  state : Option ChannelState := none
  outcome : CloseOutcome := .threw
  deriving DecidableEq, Repr

def SettleChoice.plain : SettleChoice := { call := .plain }

def UpstreamResult.paid : UpstreamResult → Bool
  | .returned paid _ => paid
  | .threw paymentEvidence _ _ => paymentEvidence

/-- What the world remembers of an action of a call. -/
def SettleWorld.remember (tid : ℕ) (world : SettleWorld) : (action : Action) → action.Answer → SettleWorld
  | .store (.verify _ _ _), some (.accepted voucher) =>
    { world with accepted := (tid, voucher.acceptedAmount) :: world.accepted }
  | .store .readClosed, _ => if world.channel.blocked then { world with late := tid :: world.late } else world
  | .callUpstream, result => if result.paid then { world with paid := tid :: world.paid } else world
  | _, _ => world

def settlePerform (verifier : Verifier) (tid : ℕ) : (action : SettleAction) → SettleChoice → SettleWorld →
    action.Answer × SettleWorld
  | .call action, choice, world =>
    let (answer, channel) := perform verifier tid action choice.call world.channel
    (answer, { world.remember tid action answer with channel })
  | .recordWriteoff cumulativeRaw, choice, world =>
    choice.call.fault.apply (fun world => ((), { world with writeoff := recordWriteoff cumulativeRaw world.writeoff }))
      world
  | .countWriteoff cumulativeRaw, choice, world =>
    choice.call.fault.apply (fun world => ((), { world with writeoffs := countWriteoff cumulativeRaw world.writeoffs }))
      world
  | .markVoucherSettled settledRaw, choice, world =>
    choice.call.fault.apply (fun world => ((), { world with
      channel := { world.channel with voucher := markVoucherSettled settledRaw world.channel.voucher } })) world
  | .getChannelState, choice, world => (choice.state, world)
  | .close _ _, choice, world => (choice.outcome, world)

abbrev settleMachine (verifier : Verifier) : Machine where
  Action := SettleAction
  Answer := SettleAction.Answer
  Choice := SettleChoice
  World := SettleWorld
  perform tid action choice world := some (settlePerform verifier tid action choice world)

abbrev Settling (α : Type) := Throwing SettleAction SettleAction.Answer α

/-- The code of a call, beside settlement runs. -/
def embedCall {α : Type} (program : Prog Action Action.Answer α) : Prog SettleAction SettleAction.Answer α :=
  program.embed .call fun _ answer => answer

def onChannel {α : Type} (program : Call α) : Settling α := OptionT.mk (embedCall program.run)

def onSettle (action : SettleAction) : Prog SettleAction SettleAction.Answer action.Answer := Prog.call action

/-! ## One settlement run -/

/-- The write-off record first, then the settled amount, so that the cron stops retrying. -/
def writeOffRefundedChannel (cumulativeRaw : ℤ) : Settling Unit := do
  OptionT.mk (onSettle (.recordWriteoff cumulativeRaw))
  OptionT.mk (onSettle (.countWriteoff cumulativeRaw))
  OptionT.mk (onSettle (.markVoucherSettled cumulativeRaw))

/-- Submit the voucher, unless the funder has emptied the channel before. -/
def collectVoucher (voucher : LatestVoucher) (state : ChannelState) : Settling (Option String) := do
  if state.closing ∧ state.emptied then
    writeOffRefundedChannel voucher.cumulativeRaw
    pure none
  else
    match ← OptionT.lift (onSettle (.close voucher.cumulativeRaw voucher.signature)) with
    | .collected txHash =>
      OptionT.mk (onSettle (.markVoucherSettled voucher.cumulativeRaw))
      pure (some txHash)
    | .insufficient =>
      writeOffRefundedChannel voucher.cumulativeRaw
      pure none
    | .threw => failure

/-- A channel that is closing is fenced at once, whether anything is due or not. -/
def fenceClosing (state : ChannelState) : Settling Unit := do
  if state.closing then
    let _ ← onChannel fenceChannelPersistent
    pure ()
  else pure ()

/-- What is unsettled is collected when it is due, and only while the lock is still ours. -/
def settleVoucher (lockId : LockId) (voucher : LatestVoucher) : Settling (Option String) := do
  let state ← OptionT.mk (onSettle .getChannelState)
  fenceClosing state
  let unsettled := voucher.cumulativeRaw - voucher.lastSettledRaw
  if unsettled ≤ 0 then pure none
  else if ¬ state.closing ∧ unsettled < settleThresholdRaw then pure none
  else
    let now ← onChannel (ask .now)
    if ← onChannel (onStore (.revalidateLock lockId now)) then
      -- no call that takes the lock after us may pay upstream
      onChannel (onStore .markClosed)
      let _ ← onChannel fenceChannelPersistent
      collectVoucher voucher state
    else pure none

def settleUnderLock (lockId : LockId) : Settling (Option String) := do
  match ← onChannel (onStore .readVoucher) with
  | none => pure none
  | some voucher => settleVoucher lockId voucher

/-- Settle the channel if due; the transaction when it was collected. -/
def settleOneChannel : Settling (Option String) := do
  let lockId ← onChannel (ask .randomUuid)
  let now ← onChannel (ask .now)
  if ← onChannel (onStore (.acquireLock lockId now)) then
    Throwing.ensuring (settleUnderLock lockId) do
      let _ ← (onChannel (releaseLock lockId)).run
      pure ()
  else pure none

/-- Forget a result. -/
def finish {α : Type} (program : Prog SettleAction SettleAction.Answer α) : Prog SettleAction SettleAction.Answer Unit := do
  let _ ← program
  pure ()

end MppRouter.Playground.Channel
