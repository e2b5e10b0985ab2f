import MppRouter.Core.Typestate
import MppRouter.Routes.StripeFulfillment

/-! # The flow of a Stripe settlement

Every request goes through the phases of a settlement: it claims the record, gets ready, sends the
call, receives its answer and records the outcome. The walks below check this once for all handlers;
what a phase lets a handler rely on is left to each result.
-/

namespace MppRouter.Routes.Stripe

open Concurrent Mpp Typestate

/-- Where a request stands with the record it claimed last. -/
inductive Settlement where
  | idle
  /-- The record is claimed and the call is not sent; `holding` until the claim is given back, `reserved`
  while the day's headroom is. -/
  | settling (invoiceKey : String) (now : ℕ) (invoiceAtomic : ℤ) (holding reserved : Bool)
  | calling (invoiceKey : String)
  | answered (invoiceKey : String) (refused : Bool)
  deriving DecidableEq, Repr

namespace Settlement

/-- The call for this invoice is not sent yet. -/
def Before (settlement : Settlement) (invoiceKey : String) : Prop :=
  ∃ now invoiceAtomic holding reserved, settlement = .settling invoiceKey now invoiceAtomic holding reserved

/-- A call for this invoice was sent and answered. -/
def After (settlement : Settlement) (invoiceKey : String) : Prop :=
  ∃ refused, settlement = .answered invoiceKey refused

def yield : Settlement → Settlement
  | .settling invoiceKey now invoiceAtomic _ reserved => .settling invoiceKey now invoiceAtomic false reserved
  | settlement => settlement

/-- Headroom is asked for once; the attempt is given up when the answer is lost. -/
def reserve (answer : Option (Option ℤ)) : Settlement → Settlement
  | .settling invoiceKey now invoiceAtomic holding _ =>
    .settling invoiceKey now invoiceAtomic (holding && answer.isSome) answer.join.isSome
  | settlement => settlement

/-- Headroom is returned only by an attempt that is given up. -/
def unreserve : Settlement → Settlement
  | .settling invoiceKey now invoiceAtomic _ _ => .settling invoiceKey now invoiceAtomic false false
  | settlement => settlement

def send : Settlement → Settlement
  | .settling invoiceKey _ _ _ _ => .calling invoiceKey
  | settlement => settlement

def receive (reply : PayInvoiceReply) : Settlement → Settlement
  | .calling invoiceKey => .answered invoiceKey (CallState.received (payInvoiceResult reply) = .refused)
  | settlement => settlement

end Settlement

/-- The record a retry inspected. -/
structure Inspected where
  invoiceKey : String
  now : ℕ
  source : RetrySource
  record : StripeFulfillmentRecord
  deriving DecidableEq, Repr

/-- What a request knows of its work so far. -/
structure Phase where
  settlement : Settlement := .idle
  inspected : Option Inspected := none
  /-- What Stripe showed since then. -/
  read : Option (String × LiveState) := none
  deriving DecidableEq, Repr

/-- No call is out. -/
def Phase.Free (phase : Phase) : Prop := ∀ invoiceKey, phase.settlement ≠ .calling invoiceKey

/-- The live state is one a retry of the inspected record may rely on. -/
def Phase.proves (phase : Phase) (inspected : Inspected) (live : LiveState) : Prop :=
  (inspected.source = .cron ∧ (freshCheck inspected.now inspected.record).map ReconcileCheck.live = some live) ∨
    phase.read = some (inspected.invoiceKey, live)

def Phase.allows (phase : Phase) : Action → Prop
  | .record _ (.claim _ _) => phase.Free
  | .record invoiceKey (.release _ releaseTo _ _ detail) =>
    phase.settlement.Before invoiceKey ∧ releaseTo ≠ .providerPaying ∧ detail.isLive = false
  | .record invoiceKey (.finalize _ finalStatus opts) =>
    (phase.settlement.After invoiceKey ∨
      phase.settlement.Before invoiceKey ∧ finalStatus ≠ .providerSubmittedAmbiguous) ∧
      finalStatus ≠ .providerPaying ∧ opts.detail.isLive = false
  | .record invoiceKey (.recordCheck _ live) => phase.read = some (invoiceKey, live)
  | .record invoiceKey (.reopen _ plan) => ∃ inspected live, phase.inspected = some inspected ∧
      inspected.invoiceKey = invoiceKey ∧ inspected.record.status = .providerSubmittedAmbiguous ∧
      plan.attempts = inspected.record.ambiguousRetries ∧ live.safe = true ∧ phase.proves inspected live
  | .guard invoiceKey (.reserveDailySpend now delta) =>
    phase.settlement = .settling invoiceKey now delta true false
  | .guard invoiceKey (.releaseDailySpend .own _ _) =>
    phase.settlement.Before invoiceKey ∨ phase.settlement = .answered invoiceKey true
  | .send invoiceKey _ => ∃ now invoiceAtomic, phase.settlement = .settling invoiceKey now invoiceAtomic true true
  | .receive invoiceKey => phase.settlement = .calling invoiceKey
  | _ => True

def Phase.next (phase : Phase) : (action : Action) → action.Answer → Phase
  | .record invoiceKey (.claim _ now), answer =>
    match answer with
    | some (.claimed invoiceAtomic) => { phase with settlement := .settling invoiceKey now invoiceAtomic true false }
    | _ => { phase with settlement := .idle }
  | .record _ (.release _ _ _ _ _), _ | .record _ (.finalize _ _ _), _ =>
    { phase with settlement := phase.settlement.yield }
  | .record invoiceKey (.inspect now source), answer =>
    { phase with inspected := answer.join.map fun record => ⟨invoiceKey, now, source, record⟩, read := none }
  | .guard _ (.reserveDailySpend _ _), answer =>
    { phase with settlement := phase.settlement.reserve answer }
  | .guard _ (.releaseDailySpend .own _ _), _ => { phase with settlement := phase.settlement.unreserve }
  | .resolveStripeInvoice invoiceKey, .live live => { phase with read := some (invoiceKey, live) }
  | .send _ _, _ => { phase with settlement := phase.settlement.send }
  | .receive _, reply => { phase with settlement := phase.settlement.receive reply }
  | _, _ => phase

/-- The phases of a request, as a typestate. -/
def flow : Typestate stripeMachine where
  Phase := Phase
  allowed := Phase.allows
  next := Phase.next

/-- The post of a program: what holds of its result and of the phase it ends in. -/
abbrev Post (α : Type) := Option α → Phase → Prop

variable {α : Type} {phase : Phase}

theorem onRecord_follows {invoiceKey : String} {op : RecordOp} {post : Post op.Answer}
    (allowed : phase.allows (.record invoiceKey op))
    (later : ∀ answer, post answer (phase.next (.record invoiceKey op) answer)) :
    flow.Follows (onRecord invoiceKey op).run post phase := ⟨allowed, later⟩

theorem onGuard_follows {invoiceKey : String} {op : GuardOp} {post : Post op.Answer}
    (allowed : phase.allows (.guard invoiceKey op))
    (later : ∀ answer, post answer (phase.next (.guard invoiceKey op) answer)) :
    flow.Follows (onGuard invoiceKey op).run post phase := ⟨allowed, later⟩

theorem ask_follows {action : Action} {post : Post action.Answer} (allowed : phase.allows action)
    (later : ∀ answer, post (some answer) (phase.next action answer)) :
    flow.Follows (ask action).run post phase := ⟨allowed, later⟩

/-! ## Settling a claimed record -/

namespace Handling

variable {handling : Handling} {invoiceAtomic : ℤ}

/-- The record was claimed by this handling and its call is not sent. -/
def Claimed (handling : Handling) (invoiceAtomic : ℤ) (phase : Phase) : Prop :=
  ∃ holding reserved, phase.settlement = .settling handling.invoiceKey handling.now invoiceAtomic holding reserved

/-- Moreover the claim was not given back, and no headroom was asked for. -/
def Holding (handling : Handling) (invoiceAtomic : ℤ) (phase : Phase) : Prop :=
  phase.settlement = .settling handling.invoiceKey handling.now invoiceAtomic true false

/-- Moreover the claim was not given back, and the headroom is reserved. -/
def Reserving (handling : Handling) (invoiceAtomic : ℤ) (phase : Phase) : Prop :=
  phase.settlement = .settling handling.invoiceKey handling.now invoiceAtomic true true

theorem Holding.claimed (holding : handling.Holding invoiceAtomic phase) : handling.Claimed invoiceAtomic phase :=
  ⟨true, false, holding⟩

theorem Reserving.claimed (reserving : handling.Reserving invoiceAtomic phase) :
    handling.Claimed invoiceAtomic phase := ⟨true, true, reserving⟩

section Claiming

variable (claimed : handling.Claimed invoiceAtomic phase)

include claimed

theorem Claimed.before : phase.settlement.Before handling.invoiceKey := by
  obtain ⟨holding, reserved, same⟩ := claimed
  exact ⟨_, _, holding, reserved, same⟩

theorem Claimed.free : phase.Free := by
  obtain ⟨holding, reserved, same⟩ := claimed
  simp [Phase.Free, same]

theorem Claimed.yield : handling.Claimed invoiceAtomic { phase with settlement := phase.settlement.yield } := by
  obtain ⟨holding, reserved, same⟩ := claimed
  exact ⟨false, reserved, by simp only [same, Settlement.yield]⟩

theorem Claimed.reserve (answer : Option (Option ℤ)) :
    handling.Claimed invoiceAtomic { phase with settlement := phase.settlement.reserve answer } := by
  obtain ⟨holding, _, same⟩ := claimed
  exact ⟨holding && answer.isSome, answer.join.isSome, by simp only [same, Settlement.reserve]⟩

theorem Claimed.unreserve : handling.Claimed invoiceAtomic { phase with settlement := phase.settlement.unreserve } := by
  obtain ⟨holding, _, same⟩ := claimed
  exact ⟨false, false, by simp only [same, Settlement.unreserve]⟩

end Claiming

theorem Holding.reserve (holding : handling.Holding invoiceAtomic phase) (spentBefore : ℤ) :
    handling.Reserving invoiceAtomic { phase with settlement := phase.settlement.reserve (some (some spentBefore)) } := by
  simp only [Reserving, show phase.settlement = _ from holding, Settlement.reserve]
  rfl

theorem release_follows {releaseTo : StripeRouterStatus} {balance : Option ℤ} {kind : String} {detail : EventDetail}
    (claimed : handling.Claimed invoiceAtomic phase) (gives : releaseTo ≠ .providerPaying)
    (plain : detail.isLive = false) :
    flow.Follows (handling.release releaseTo balance kind detail).run
      (fun _ => handling.Claimed invoiceAtomic) phase :=
  onRecord_follows ⟨claimed.before, gives, plain⟩ fun _ => claimed.yield

variable {finalStatus : StripeRouterStatus} {opts : FinalizeOpts}

theorem finalize_follows
    (claimed : handling.Claimed invoiceAtomic phase) (definite : finalStatus ≠ .providerSubmittedAmbiguous)
    (gives : finalStatus ≠ .providerPaying) (plain : opts.detail.isLive = false) :
    flow.Follows (handling.finalize finalStatus opts).run (fun _ => handling.Claimed invoiceAtomic) phase := by
  refine Follows.seq (onRecord_follows ⟨.inr ⟨claimed.before, definite⟩, gives, plain⟩ fun answer => ?_)
  cases answer with
  | none => exact claimed.yield
  | some done => exact claimed.yield

theorem releaseSpend_follows (claimed : handling.Claimed invoiceAtomic phase) :
    flow.Follows (handling.releaseSpend invoiceAtomic).run (fun _ => handling.Claimed invoiceAtomic) phase :=
  onGuard_follows (.inl claimed.before) fun _ => claimed.unreserve

theorem settlementThrew_follows {progress : Progress} (unstarted : progress.payInvoiceStarted = false)
    (claimed : handling.Claimed invoiceAtomic phase) :
    flow.Follows (handling.settlementThrew invoiceAtomic progress).run (fun _ => Phase.Free) phase := by
  have release : ∀ phase, handling.Claimed invoiceAtomic phase → flow.Follows (do
      handling.release .payoutSeen none "stripe_claim_released_on_error" .thrown
      pure (Summary.deferred "settlement_error") : Handler Summary).run (fun _ => Phase.Free) phase := by
    intro phase claimed
    refine Follows.seq ((release_follows claimed (by decide) rfl).mono fun result phase claimed => ?_)
    cases result <;> exact claimed.free
  simp only [settlementThrew, unstarted, Bool.false_eq_true, if_false]
  by_cases reserved : progress.dailyReserved = true
  · simp only [reserved, if_true]
    refine Follows.seq (Follows.attempt ((releaseSpend_follows claimed).mono fun _ phase claimed => ?_))
    exact release phase claimed
  · simp only [reserved, Bool.false_eq_true, if_false]
    exact release phase claimed

/-- A part of the settlement before the call, under its catch. -/
theorem caught_follows {progress : Progress} {part : Handler α} {next : α → Handler Summary}
    (unstarted : progress.payInvoiceStarted = false)
    (first : flow.Follows part.run (fun result phase => match result with
      | some value => flow.Follows (next value).run (fun _ => Phase.Free) phase
      | none => handling.Claimed invoiceAtomic phase) phase) :
    flow.Follows (handling.caught invoiceAtomic progress part next).run (fun _ => Phase.Free) phase := by
  refine Follows.seq (Follows.attempt (first.mono fun result phase now => ?_))
  cases result with
  | none => exact settlementThrew_follows unstarted now
  | some value => exact now

theorem deferForCheckoutPause_follows (claimed : handling.Claimed invoiceAtomic phase) :
    flow.Follows handling.deferForCheckoutPause.run (fun _ => handling.Claimed invoiceAtomic) phase := by
  refine Follows.seq ((release_follows claimed (by decide) rfl).mono fun result phase claimed => ?_)
  cases result <;> exact claimed

variable {invoiceKey : String}

/-- A settlement that goes on still holds its claim, and the headroom. -/
def reservedPost (handling : Handling) (invoiceAtomic : ℤ) : Post Reserved
  | some (.reserved _), phase => handling.Reserving invoiceAtomic phase
  | _, phase => handling.Claimed invoiceAtomic phase

section Held

variable (holding : handling.Holding invoiceAtomic phase)

include holding

theorem reserve_follows {balance : Option ℤ} :
    flow.Follows (handling.reserve invoiceAtomic balance).run (handling.reservedPost invoiceAtomic) phase := by
  refine Follows.seq (onGuard_follows holding fun answer => ?_)
  match answer with
  | none => exact holding.claimed.reserve none
  | some (some spentBefore) => exact holding.reserve spentBefore
  | some none =>
    have claimed := holding.claimed.reserve (some none)
    refine Follows.seq ((release_follows claimed (by decide) rfl).mono fun result phase claimed => ?_)
    cases result <;> exact claimed

theorem checkBalance_follows :
    flow.Follows (handling.checkBalance invoiceAtomic).run (handling.reservedPost invoiceAtomic) phase := by
  refine Follows.seq (ask_follows trivial fun balance => ?_)
  dsimp only
  cases balance.filter (· < invoiceAtomic) with
  | none => exact reserve_follows holding
  | some short =>
    have gives : (if handling.input.payoutCompleted then StripeRouterStatus.failedInsufficientBalance else .payoutSeen) ≠
        .providerPaying := by
      split_ifs <;> simp
    refine Follows.seq ((release_follows holding.claimed gives rfl).mono fun result phase claimed => ?_)
    cases result <;> exact claimed

theorem claimedByOther_follows {holder : InvoiceClaim} :
    flow.Follows (handling.claimedByOther holder).run (handling.reservedPost invoiceAtomic) phase := by
  refine Follows.seq ((finalize_follows holding.claimed (by decide) (by decide) rfl).mono fun result phase claimed => ?_)
  cases result <;> exact claimed

theorem untilReserved_follows :
    flow.Follows (handling.untilReserved invoiceAtomic).run (handling.reservedPost invoiceAtomic) phase := by
  refine Follows.seq (ask_follows trivial fun paused => ?_)
  cases paused with
  | true =>
    refine Follows.seq ((deferForCheckoutPause_follows holding.claimed).mono fun result phase claimed => ?_)
    cases result <;> exact claimed
  | false =>
    refine Follows.seq (onGuard_follows trivial fun answer => ?_)
    match answer with
    | none => exact holding.claimed
    | some (.refused holder) => exact claimedByOther_follows holding
    | some (.ok _ _) => exact checkBalance_follows holding

end Held

def readyPost (handling : Handling) (invoiceAtomic : ℤ) : Post Ready
  | some (.ready _), phase => handling.Reserving invoiceAtomic phase
  | _, phase => handling.Claimed invoiceAtomic phase

theorem abandon_follows (reserving : handling.Reserving invoiceAtomic phase) (plain : opts.detail.isLive = false) :
    flow.Follows (handling.abandon invoiceAtomic opts).run (handling.readyPost invoiceAtomic) phase := by
  refine Follows.seq ((releaseSpend_follows reserving.claimed).mono fun result phase claimed => ?_)
  cases result with
  | none => exact claimed
  | some done =>
    refine Follows.seq ((finalize_follows claimed (by decide) (by decide) plain).mono fun result phase claimed => ?_)
    cases result <;> exact claimed

theorem recheckPause_follows {args : PayInvoiceArgs} (reserving : handling.Reserving invoiceAtomic phase) :
    flow.Follows (handling.recheckPause invoiceAtomic args).run (handling.readyPost invoiceAtomic) phase := by
  refine Follows.seq (ask_follows trivial fun paused => ?_)
  cases paused with
  | false => exact reserving
  | true =>
    refine Follows.seq ((releaseSpend_follows reserving.claimed).mono fun result phase claimed => ?_)
    cases result <;> exact claimed

theorem untilCall_follows {spentBefore : ℤ} (reserving : handling.Reserving invoiceAtomic phase) :
    flow.Follows (handling.untilCall invoiceAtomic spentBefore).run (handling.readyPost invoiceAtomic) phase := by
  refine Follows.seq (onRecord_follows trivial fun answer => ?_)
  cases answer with
  | none => exact reserving.claimed
  | some record =>
    dsimp only
    cases record.filter StripeFulfillmentRecord.locked with
    | none => exact abandon_follows reserving rfl
    | some claimed =>
      refine Follows.seq (ask_follows trivial fun capability => ?_)
      cases capability with
      | none => exact abandon_follows reserving rfl
      | some stripeUrl => exact recheckPause_follows reserving

/-! ## The call and its outcome -/

theorem After.free (after : phase.settlement.After invoiceKey) : phase.Free := by
  obtain ⟨refused, same⟩ := after
  simp [Phase.Free, same]

/-- A claim that the code gives back twice is still answered. -/
theorem after_yield {settlement : Settlement} (after : settlement.After invoiceKey) :
    settlement.yield.After invoiceKey := by
  obtain ⟨refused, rfl⟩ := after
  exact ⟨refused, rfl⟩

theorem after_unreserve {settlement : Settlement} (after : settlement.After invoiceKey) :
    settlement.unreserve.After invoiceKey := by
  obtain ⟨refused, rfl⟩ := after
  exact ⟨refused, rfl⟩

theorem finalize_answered_follows
    (after : phase.settlement.After handling.invoiceKey) (gives : finalStatus ≠ .providerPaying)
    (plain : opts.detail.isLive = false) :
    flow.Follows (handling.finalize finalStatus opts).run
      (fun _ phase => phase.settlement.After handling.invoiceKey) phase := by
  refine Follows.seq (onRecord_follows ⟨.inl after, gives, plain⟩ fun answer => ?_)
  cases answer <;> exact after_yield after

theorem recordRefusal_follows
    (refused : phase.settlement = .answered handling.invoiceKey true) (gives : finalStatus ≠ .providerPaying)
    (plain : opts.detail.isLive = false) :
    flow.Follows (handling.recordRefusal invoiceAtomic finalStatus opts).run
      (fun _ phase => phase.settlement.After handling.invoiceKey) phase := by
  have after : phase.settlement.unreserve.After handling.invoiceKey := after_unreserve ⟨true, refused⟩
  refine Follows.seq (onGuard_follows (.inr refused) fun answer => ?_)
  cases answer with
  | none => exact after
  | some done => exact finalize_answered_follows after gives plain

theorem recordOutcome_follows {result : StripePayInvoiceResult}
    (answered : phase.settlement = .answered handling.invoiceKey (CallState.received result = .refused)) :
    flow.Follows (handling.recordOutcome invoiceAtomic result).run
      (fun _ phase => phase.settlement.After handling.invoiceKey) phase := by
  have after : phase.settlement.After handling.invoiceKey := ⟨_, answered⟩
  unfold recordOutcome
  split_ifs with ambiguous disabled ok
  · exact finalize_answered_follows after (by decide) rfl
  · have refused : CallState.received result = .refused := by simp [CallState.received, ambiguous, disabled]
    exact recordRefusal_follows (by simpa [refused] using answered) (by decide) rfl
  · exact finalize_answered_follows after (by decide) rfl
  · have refused : CallState.received result = .refused := by simp [CallState.received, ambiguous, disabled, ok]
    exact recordRefusal_follows (by simpa [refused] using answered) (by decide) rfl

theorem callAndRecord_follows {args : PayInvoiceArgs} (reserving : handling.Reserving invoiceAtomic phase) :
    flow.Follows (handling.callAndRecord invoiceAtomic args).run (fun _ => Phase.Free) phase := by
  have sending : phase.settlement.send = .calling handling.invoiceKey := by
    rw [show phase.settlement = _ from reserving]
    rfl
  refine Follows.seq (Follows.seq (ask_follows ⟨_, _, reserving⟩ fun _ => ?_))
  refine Follows.seq (ask_follows sending fun reply => ?_)
  have answered : phase.settlement.send.receive reply =
      .answered handling.invoiceKey (CallState.received (payInvoiceResult reply) = .refused) := by
    rw [sending]
    rfl
  refine Follows.seq (Follows.attempt ((recordOutcome_follows answered).mono fun result phase after => ?_))
  cases result with
  | some summary => exact After.free after
  | none => exact (finalize_answered_follows after (by decide) rfl).mono fun _ _ after => After.free after

theorem settle_follows (holding : handling.Holding invoiceAtomic phase) :
    flow.Follows (handling.settleClaimedStripeInvoice invoiceAtomic).run (fun _ => Phase.Free) phase := by
  refine caught_follows rfl ((untilReserved_follows holding).mono fun result phase reserved => ?_)
  match result with
  | none => exact reserved
  | some (.done summary) => exact Claimed.free reserved
  | some (.reserved spentBefore) =>
    refine caught_follows rfl ((untilCall_follows reserved).mono fun result phase ready => ?_)
    match result with
    | none => exact ready
    | some (.done summary) => exact Claimed.free ready
    | some (.ready args) => exact callAndRecord_follows ready
    | some .paused =>
      refine caught_follows rfl ((deferForCheckoutPause_follows ready).mono fun result phase claimed => ?_)
      cases result with
      | none => exact claimed
      | some summary => exact claimed.free

end Handling

theorem handleStripeWebhookEvent_follows (handling : Handling) (free : phase.Free) :
    flow.Follows (handleStripeWebhookEvent handling).run (fun _ => Phase.Free) phase := by
  have idle : { phase with settlement := .idle }.Free := fun _ => nofun
  refine Follows.seq (onRecord_follows free fun answer => ?_)
  match answer with
  | none => exact idle
  | some (.terminal status) => exact idle
  | some .inFlight => exact idle
  | some (.ignored eventType) => exact idle
  | some (.manualReview reason) => exact idle
  | some (.claimed invoiceAtomic) => exact Handling.settle_follows rfl

/-! ## Reconciling and retrying -/

theorem checkWithProvider_follows (invoiceKey : String) (now : ℕ) (free : phase.Free) :
    flow.Follows (checkWithProvider invoiceKey now).run (fun _ => Phase.Free) phase := by
  refine Follows.seq (ask_follows trivial fun answer => ?_)
  cases answer with
  | failed error =>
    refine Follows.seq (onRecord_follows trivial fun answer => ?_)
    cases answer <;> trivial
  | live live =>
    refine Follows.seq (onRecord_follows rfl fun answer => ?_)
    cases answer <;> trivial

theorem reconcileStripeRecordWithProvider_follows (invoiceKey : String) (now minInterval : ℕ) (free : phase.Free) :
    flow.Follows (reconcileStripeRecordWithProvider invoiceKey now minInterval).run (fun _ => Phase.Free) phase := by
  refine Follows.seq (onRecord_follows trivial fun answer => ?_)
  match answer with
  | none => trivial
  | some none => trivial
  | some (some record) =>
    dsimp only
    split_ifs
    · trivial
    · trivial
    · refine Follows.seq (onRecord_follows trivial fun answer => ?_)
      match answer with
      | none => trivial
      | some true => exact checkWithProvider_follows invoiceKey now free
      | some false => trivial

/-- The retry goes on with a live state only when it proves something about the inspected record. -/
theorem liveProof_follows {inspected : Inspected} (looked : phase.inspected = some inspected) (free : phase.Free) :
    flow.Follows (liveProof inspected.invoiceKey inspected.now inspected.source inspected.record).run
      (fun result phase => phase.Free ∧ ∀ live, result = some (some live) →
        phase.inspected = some inspected ∧ phase.proves inspected live) phase := by
  have reads : flow.Follows (readLive inspected.invoiceKey).run
      (fun result phase => phase.Free ∧ ∀ live, result = some (some live) →
        phase.inspected = some inspected ∧ phase.proves inspected live) phase := by
    refine Follows.seq (ask_follows trivial fun answer => ?_)
    cases answer with
    | failed error => exact ⟨free, fun live same => nomatch same⟩
    | live live =>
      refine ⟨free, ?_⟩
      rintro _ ⟨⟩
      exact ⟨looked, .inr rfl⟩
  unfold liveProof
  split
  next checked source fresh =>
    refine ⟨free, ?_⟩
    rintro _ ⟨⟩
    exact ⟨looked, .inl ⟨source, by simp [fresh]⟩⟩
  next => exact reads

theorem releaseReopened_follows (invoiceKey : String) (now : ℕ) (record : StripeFulfillmentRecord) (free : phase.Free) :
    flow.Follows (releaseReopened invoiceKey now record).run (fun _ => Phase.Free) phase := by
  unfold releaseReopened
  split
  · refine Follows.seq (Follows.attempt (onGuard_follows trivial fun _ => ?_))
    trivial
  · trivial

theorem reopenAndSettle_follows {inspected : Inspected} {live : LiveState} (looked : phase.inspected = some inspected)
    (ambiguous : inspected.record.status = .providerSubmittedAmbiguous)
    (safe : live.safe = true) (proves : phase.proves inspected live) (free : phase.Free) :
    flow.Follows (reopenAndSettle inspected.invoiceKey inspected.now inspected.source inspected.record live).run
      (fun _ => Phase.Free) phase := by
  refine Follows.seq
    (onRecord_follows ⟨inspected, live, looked, rfl, ambiguous, rfl, safe, proves⟩ fun answer => ?_)
  match answer with
  | none => trivial
  | some false => trivial
  | some true =>
    refine Follows.seq ((releaseReopened_follows _ _ _ free).mono fun result phase free => ?_)
    cases result with
    | none => trivial
    | some done =>
      refine Follows.seq ((handleStripeWebhookEvent_follows _ free).mono fun result phase free => ?_)
      cases result <;> trivial

theorem retryAmbiguousStripeRecord_follows (invoiceKey : String) (now : ℕ) (source : RetrySource) (free : phase.Free) :
    flow.Follows (retryAmbiguousStripeRecord invoiceKey now source).run (fun _ => Phase.Free) phase := by
  refine Follows.seq (onRecord_follows trivial fun answer => ?_)
  match answer with
  | none => trivial
  | some none => trivial
  | some (some record) =>
    dsimp only
    split_ifs with settled locked
    · trivial
    · trivial
    · have ambiguous : record.status = .providerSubmittedAmbiguous := by simpa using settled
      have looking : (phase.next (.record invoiceKey (.inspect now source)) (some (some record))).Free := free
      refine Follows.seq ((@liveProof_follows _ ⟨invoiceKey, now, source, record⟩ rfl looking).mono ?_)
      rintro result phase ⟨free, proves⟩
      match result with
      | none => trivial
      | some none => trivial
      | some (some live) =>
        obtain ⟨looked, proves⟩ := proves live rfl
        dsimp only
        split_ifs with unsafe_
        · trivial
        · have safe : live.safe = true := by simpa using unsafe_
          split
          · trivial
          · exact reopenAndSettle_follows looked ambiguous safe proves free

theorem sweepRecord_follows (now : ℕ) (record : StripeFulfillmentRecord) (free : phase.Free) :
    flow.Follows (sweepRecord now record).run (fun _ => Phase.Free) phase := by
  refine Follows.seq ((reconcileStripeRecordWithProvider_follows _ _ _ free).mono fun result phase free => ?_)
  match result with
  | none => trivial
  | some (.unchecked reason) => trivial
  | some (.failed error escalated) => trivial
  | some (.live state (some transition)) => trivial
  | some (.live state none) =>
    dsimp only
    split_ifs
    · refine Follows.seq ((retryAmbiguousStripeRecord_follows _ _ _ free).mono fun result phase free => ?_)
      cases result <;> trivial
    · trivial

theorem sweepRecords_follows (now : ℕ) (records : List StripeFulfillmentRecord) (free : phase.Free) :
    flow.Follows (sweepRecords now records).run (fun _ => Phase.Free) phase := by
  induction records generalizing phase with
  | nil => trivial
  | cons record rest ih =>
    refine Follows.seq (Follows.attempt ((sweepRecord_follows now record free).mono fun result phase free => ?_))
    exact ih free

theorem sweepInFlightStripeRecords_follows (now : ℕ) (free : phase.Free) :
    flow.Follows (sweepInFlightStripeRecords now).run (fun _ => Phase.Free) phase := by
  refine Follows.seq (Follows.attempt ⟨trivial, fun answer => ?_⟩)
  cases answer with
  | none => trivial
  | some values => exact sweepRecords_follows now _ free

theorem resolveStripeRecord_follows (invoiceKey : String) (args : ManualResolution) (free : phase.Free) :
    flow.Follows (resolveStripeRecord invoiceKey args).run (fun _ => Phase.Free) phase := by
  refine Follows.seq (onRecord_follows trivial fun answer => ?_)
  match answer with
  | none => trivial
  | some none => trivial
  | some (some record) => exact onRecord_follows trivial fun _ => free

theorem Request.serve_follows (request : Request) (free : phase.Free) : flow.Follows request.serve (fun _ => Phase.Free) phase := by
  have handled : flow.Follows request.handler.run (fun _ => Phase.Free) phase := by
    cases request with
    | seed invoiceKey args now => exact onRecord_follows trivial fun _ => free
    | webhook handling =>
      refine Follows.seq ((handleStripeWebhookEvent_follows handling free).mono fun result phase free => ?_)
      cases result <;> trivial
    | reconcile invoiceKey now minInterval =>
      refine Follows.seq ((reconcileStripeRecordWithProvider_follows _ _ _ free).mono fun result phase free => ?_)
      cases result <;> trivial
    | sweep now => exact sweepInFlightStripeRecords_follows now free
    | adminRetry invoiceKey now evidence retriedBy =>
      refine Follows.seq ((retryAmbiguousStripeRecord_follows _ _ _ free).mono fun result phase free => ?_)
      cases result <;> trivial
    | resolve invoiceKey args =>
      refine Follows.seq ((resolveStripeRecord_follows _ _ free).mono fun result phase free => ?_)
      cases result <;> trivial
  exact Follows.bind (handled.mono fun _ _ free => free)

end MppRouter.Routes.Stripe
