import Mathlib.Data.Nat.Notation
import Mathlib.Data.Int.Notation
import MppRouter.Mpp.ChannelWatermark

/-! # Keys of a payment channel

A user spends from a channel by signing cumulative vouchers. The verifier keeps the highest amount it
accepted as a watermark; the router keeps the voucher it will redeem, a lock that one call holds at a
time, and two markers that stop all calls. The functions below are the updates of these keys.
-/

namespace MppRouter.Playground.Channel

open Mpp (Cumulative rollbackCumulative)

/-! ## Prices -/

def channelMarkupBps : ℕ := 1000
def channelMarkupMinRaw : ℕ := 10000

/-- A tenth of the base, and never less than $0.001, on top. -/
def applyMarkup (baseRaw : ℕ) : ℕ := baseRaw + max (baseRaw * channelMarkupBps / 10000) channelMarkupMinRaw

theorem applyMarkup_pos (baseRaw : ℕ) : 0 < applyMarkup baseRaw := by
  unfold applyMarkup channelMarkupMinRaw
  omega

example : applyMarkup 800000 = 880000 := by decide

/-! ## The delivery lock -/

/-- The token of one holder, minted fresh. -/
structure LockId where
  owner : ℕ
  serial : ℕ
  deriving DecidableEq, Repr

/-- A lock this old is leaked and may be taken over. -/
def deliveryLockTtlMs : ℕ := 300000

structure DeliveryLock where
  id : LockId
  acquiredAt : ℕ
  /-- Missing in the format before locks expired. -/
  expiresAt : Option ℕ
  deriving DecidableEq, Repr

/-- Take a lock that is free or provably expired. -/
def acquireChannelDeliveryLock (lockId : LockId) (now : ℕ) (current : Option DeliveryLock) :
    Bool × Option DeliveryLock :=
  if current.any fun lock => lock.expiresAt.any fun expiresAt => now < expiresAt then (false, current)
  else (true, some ⟨lockId, now, some (now + deliveryLockTtlMs)⟩)

/-- Check that the lock is still ours, and extend it. -/
def revalidateChannelDeliveryLock (lockId : LockId) (now : ℕ) (current : Option DeliveryLock) :
    Bool × Option DeliveryLock :=
  match current with
  | some lock =>
    if lock.id ≠ lockId then (false, current)
    else (true, some { lock with expiresAt := some (now + deliveryLockTtlMs) })
  | none => (false, none)

def releaseChannelDeliveryLock (lockId : LockId) (current : Option DeliveryLock) : Bool × Option DeliveryLock :=
  if current.any fun lock => lock.id = lockId then (true, none) else (false, current)

/-! ## The watermark -/

inductive CredentialAction where
  | voucher | close
  deriving DecidableEq, Repr

/-- The voucher of a verified credential, with the watermark read before it was verified. -/
structure ChannelVoucher where
  challengeId : String
  acceptedAmount : ℤ
  previousAmount : ℤ
  action : CredentialAction
  signature : String
  deriving DecidableEq, Repr

/-- Restore the watermark that the voucher replaced. -/
def ChannelVoucher.rollback (voucher : ChannelVoucher) (current : Option (Cumulative ℤ)) : Option (Option (Cumulative ℤ)) :=
  rollbackCumulative voucher.acceptedAmount voucher.previousAmount current

/-! ## The voucher to redeem -/

structure LatestVoucher where
  cumulativeRaw : ℤ
  signature : String
  /-- The highest cumulative amount settled on chain. -/
  lastSettledRaw : ℤ
  deriving DecidableEq, Repr

/-- Keep a voucher unless one at least as high is stored. -/
def putLatestVoucher (cumulativeRaw : ℤ) (signature : String) (current : Option LatestVoucher) : LatestVoucher :=
  match current with
  | some stored =>
    if stored.cumulativeRaw ≥ cumulativeRaw then stored else ⟨cumulativeRaw, signature, stored.lastSettledRaw⟩
  | none => ⟨cumulativeRaw, signature, 0⟩

end MppRouter.Playground.Channel
