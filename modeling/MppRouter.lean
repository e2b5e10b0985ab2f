import MppRouter.Mpp.AtomicStoreCas
import MppRouter.Playground.DepositConsumption
import MppRouter.Playground.FenceFirst
import MppRouter.Proxy.ChargeAccounting
import MppRouter.Proxy.JobOutcome
import MppRouter.Proxy.VoucherRollback
import MppRouter.Proxy.X402Delivery
import MppRouter.Refund.PaidOnce
import MppRouter.Refund.RecordLaws
import MppRouter.Routes.BalanceLaw
import MppRouter.Routes.CouponPaidOnce
import MppRouter.Routes.IssueOnce
import MppRouter.Routes.KeyOnce
import MppRouter.Routes.LiveCoupon
import MppRouter.Routes.StripeDailySpend
import MppRouter.Routes.StripeFreshProof
import MppRouter.Routes.StripeSingleFlight
import MppRouter.Routes.StripeTerminal
import MppRouter.Routes.UpiSingleCall
import MppRouter.Routes.VoidRefund
import MppRouter.X402.SettlementTruth
import MppRouter.X402Payer.StoredCredential
import MppRouter.Routes.OneLiveOrder
import MppRouter.Routes.ExistingOrderAgrees
import MppRouter.Providers.IndexTruth
import MppRouter.Providers.OwnerOnly
import MppRouter.Providers.VersionPaidOnce
import MppRouter.Playground.OpenSlots
import MppRouter.Playground.WriteoffRecon
import MppRouter.Refund.DeadEnvelope
import MppRouter.Proxy.ConvertUsdc
import MppRouter.Mpp.HardCap
import MppRouter.Mpp.TempoWatermark
import MppRouter.Refund.Acknowledged
import MppRouter.X402.BoundedOutcome
import MppRouter.Routes.OnePullOneRecord
import MppRouter.Refund.Reservations
import MppRouter.Playground.MoneyCodec
import MppRouter.Mpp.Idempotency
import MppRouter.Routes.StripeSeed
import MppRouter.Routes.CheckoutControl
import MppRouter.Playground.DeliveryFence
import MppRouter.Routes.CouponCircuit
import MppRouter.Routes.UpiClaimReleased
import MppRouter.Routes.UpiPaidByCall
import MppRouter.Routes.RefusedIssue
import MppRouter.Catalog.KeysUnique
import MppRouter.Playground.CallBilling
import MppRouter.Routes.GuardedSaves
import MppRouter.Providers.Base58
import MppRouter.X402Payer.Reconcile
import MppRouter.X402Payer.RequirementHash
import MppRouter.Routes.QuotePaid
import MppRouter.Monitors.BalanceWatch
import MppRouter.Providers.IdClaim
import MppRouter.Proxy.UpstreamPath
import MppRouter.Providers.Origins
import MppRouter.Providers.PaidGate
import MppRouter.Providers.Sponsor
import MppRouter.Routes.ApiKey
import MppRouter.Providers.Selection
import MppRouter.Routes.TonAddress
