import MppRouter.Routes.StripeChain
import MppRouter.Routes.StripeTerminal

/-! # What a manual review keeps of a record

No writer of a record but its resolution moves it out of manual review, and only the outcome of a call writes what
pay-invoice reported. So the session, the amount, the payment and the reported transaction of a record under review are
what a snapshot says they are, as long as no outcome meets it there.
-/

namespace MppRouter.Routes.Stripe.Onchain

open Concurrent Mpp Machine

/-! ## Records -/

/-- The record was paid or refused for good. -/
def closed (status : StripeRouterStatus) : Bool := status = .paid || status = .failedProvider

/-- The record is in manual review or was closed. -/
def reviewed (status : StripeRouterStatus) : Bool := status = .manualReview || closed status

variable {status : StripeRouterStatus}

theorem reviewed_not_inFlight (settled : reviewed status = true) : status.inFlight = false := by
  cases status <;> first | rfl | cases settled

theorem reviewed_terminal (settled : reviewed status = true) : status.terminal = true := by
  cases status <;> first | rfl | cases settled

/-- What identifies the payment of a record stays. -/
structure Same (old new : StripeFulfillmentRecord) : Prop where
  key : new.invoiceKey = old.invoiceKey
  amount : ∀ amount, old.invoiceAmountAtomic = some amount → new.invoiceAmountAtomic = some amount
  payment : present old.rozoPaymentId = true → new.rozoPaymentId = old.rozoPaymentId

theorem Same.refl (record : StripeFulfillmentRecord) : Same record record := ⟨rfl, fun _ same => same, fun _ => rfl⟩

/-- A review goes on, or comes to its end. -/
inductive Moved (old new : StripeFulfillmentRecord) : Prop
  | stays (held : reviewed old.status = true → new.status = old.status) (bound : new.providerResult = old.providerResult)
  | closes (unclosed : closed old.status = false) (closed : closed new.status = true)

/-- What a writer without an outcome of pay-invoice makes of a record. -/
structure Writes (old new : StripeFulfillmentRecord) : Prop where
  same : Same old new
  moved : Moved old new

theorem Writes.still {old new : StripeFulfillmentRecord} (same : Same old new) (status : new.status = old.status)
    (bound : new.providerResult = old.providerResult) : Writes old new :=
  ⟨same, .stays (fun _ => status) bound⟩

theorem Writes.refl (record : StripeFulfillmentRecord) : Writes record record := .still (.refl record) rfl rfl

theorem Writes.fresh {old new : StripeFulfillmentRecord} (same : Same old new) (outside : reviewed old.status = false)
    (bound : new.providerResult = old.providerResult) : Writes old new := by
  constructor
  · exact same
  · apply Moved.stays
    · intro settled
      rw [outside] at settled
      cases settled
    · exact bound

/-- A record kept through a review, as long as no outcome meets it there. -/
structure Keeps (old new : StripeFulfillmentRecord) : Prop where
  same : Same old new
  held : reviewed old.status = true → (new.status = old.status ∧ new.providerResult = old.providerResult) ∨
    (old.status = .manualReview ∧ closed new.status = true)

theorem Keeps.refl (record : StripeFulfillmentRecord) : Keeps record record := ⟨.refl record, fun _ => .inl ⟨rfl, rfl⟩⟩

theorem not_closed_of_reviewed (settled : reviewed status = true)
    (unclosed : closed status = false) : status = .manualReview := by
  simpa [reviewed, unclosed] using settled

theorem Writes.keeps {old new : StripeFulfillmentRecord} (writes : Writes old new) : Keeps old new := by
  constructor
  · exact writes.same
  · intro settled
    cases writes.moved with
    | stays held bound => exact .inl ⟨held settled, bound⟩
    | closes unclosed closed => exact .inr ⟨not_closed_of_reviewed settled unclosed, closed⟩

/-- A record that is open was open before, with the same result. -/
theorem Writes.unclosed {old new : StripeFulfillmentRecord} (writes : Writes old new)
    (unclosed : closed new.status = false) : closed old.status = false ∧ new.providerResult = old.providerResult := by
  cases writes.moved with
  | stays held bound =>
    constructor
    · cases done : closed old.status with
      | false => rfl
      | true =>
        rw [held (by simp [reviewed, done]), done] at unclosed
        cases unclosed
    · exact bound
  | closes _ closed =>
    rw [closed] at unclosed
    cases unclosed

/-- A record in manual review was there before, with the same result. -/
theorem Keeps.reviewing {old new : StripeFulfillmentRecord} (keeps : Keeps old new) (settled : reviewed old.status = true)
    (review : new.status = .manualReview) : old.status = .manualReview ∧ new.providerResult = old.providerResult := by
  rcases keeps.held settled with ⟨status, bound⟩ | ⟨_, done⟩
  · exact ⟨status ▸ review, bound⟩
  · rw [review] at done
    cases done

theorem Same.trans {first second third : StripeFulfillmentRecord} (earlier : Same first second)
    (later : Same second third) : Same first third := by
  constructor
  · exact later.key.trans earlier.key
  · intro amount locked
    exact later.amount amount (earlier.amount amount locked)
  · intro paid
    have kept := earlier.payment paid
    rw [← kept] at paid
    exact (later.payment paid).trans kept

theorem closed_reviewed (settled : closed status = true) : reviewed status = true := by
  simp [reviewed, settled]

theorem Keeps.trans {first second third : StripeFulfillmentRecord} (earlier : Keeps first second)
    (later : Keeps second third) : Keeps first third := by
  constructor
  · exact earlier.same.trans later.same
  · intro settled
    rcases earlier.held settled with ⟨status, bound⟩ | ⟨review, done⟩
    · rw [← status] at settled
      rcases later.held settled with ⟨status', bound'⟩ | ⟨review, done⟩
      · exact .inl ⟨status'.trans status, bound'.trans bound⟩
      · exact .inr ⟨status ▸ review, done⟩
    · rcases later.held (closed_reviewed done) with ⟨status', _⟩ | ⟨reopened, _⟩
      · exact .inr ⟨review, status' ▸ done⟩
      · rw [reopened] at done
        cases done

/-! ## Writers -/

/-- What is decided on a record is written. -/
def Decides {R : Type} (record : StripeFulfillmentRecord) (decision : Decision StripeFulfillmentRecord R) : Prop :=
  ∃ next, decision.after (some record) = some next ∧ Writes record next

variable {record : StripeFulfillmentRecord}

theorem decides_noop {R : Type} (result : R) : Decides record (.noop result) := ⟨record, rfl, .refl record⟩

theorem decides_set {R : Type} {next : StripeFulfillmentRecord} (result : R) (writes : Writes record next) :
    Decides record (.set next result) := ⟨next, rfl, writes⟩

theorem seed_decides (args : SeedArgs) (now : ℕ) (record : StripeFulfillmentRecord) :
    Decides record (seedStripeRecord args now record) := by
  apply decides_set
  apply Writes.still
  · constructor
    · rfl
    · intro amount locked
      simp [StripeFulfillmentRecord.push, locked]
    · intro paid
      simp [StripeFulfillmentRecord.push, paid]
  · show (if _ then _ else _) = _
    split_ifs with fresh
    · rcases fresh with lower | created
      · simp [StripeRouterStatus.rank] at lower
      · exact created.symm
    · rfl
  · rfl

theorem recordWebhookEvent_same (input : StripeWebhookInput) (now : ℕ) (record : StripeFulfillmentRecord) :
    Same record (recordWebhookEvent input now record) := by
  constructor
  · rfl
  · exact fun _ locked => locked
  · intro paid
    simp [recordWebhookEvent, paid]

theorem outside_of_claimable (terminal : ¬status.terminal = true) : reviewed status = false := by
  cases settled : reviewed status with
  | false => rfl
  | true => exact absurd (reviewed_terminal settled) terminal

theorem claimLocked_decides (noted : StripeFulfillmentRecord) (same : Same record noted)
    (bound : noted.providerResult = record.providerResult) (outside : reviewed record.status = false) :
    ∃ next claim, claimLocked noted = .set next claim ∧ Writes record next := by
  have fresh (status : StripeRouterStatus) (reason : Option String) :
      Writes record { noted with status, failureReason := reason } :=
    .fresh ⟨same.key, same.amount, same.payment⟩ outside bound
  unfold claimLocked
  split_ifs
  · exact ⟨_, _, rfl, fresh .manualReview _⟩
  · split
    · split_ifs
      · exact ⟨_, _, rfl, fresh .manualReview _⟩
      · exact ⟨_, _, rfl, fresh .providerPaying noted.failureReason⟩
    · exact ⟨_, _, rfl, fresh .manualReview _⟩

theorem claim_decides (input : StripeWebhookInput) (now : ℕ) (record : StripeFulfillmentRecord) :
    Decides record (claimStripeRecord input now record) := by
  have same := recordWebhookEvent_same input now record
  have status : (recordWebhookEvent input now record).status = record.status := rfl
  by_cases terminal : record.status.terminal = true
  · simp only [claimStripeRecord, status, terminal, if_true]
    exact decides_set _ (.still same rfl rfl)
  · have outside := outside_of_claimable terminal
    by_cases inFlight : record.status.inFlight = true
    · simp only [claimStripeRecord, status, terminal, inFlight, if_true, Bool.false_eq_true, if_false]
      exact decides_set _ (.still same rfl rfl)
    · simp only [claimStripeRecord, status, terminal, inFlight, Bool.false_eq_true, if_false]
      split_ifs with ignored created
      · exact decides_set _ (.fresh ⟨same.key, same.amount, same.payment⟩ outside rfl)
      · exact decides_set _ (.still ⟨same.key, same.amount, same.payment⟩ rfl rfl)
      · obtain ⟨next, claim, decided, writes⟩ := claimLocked_decides
          { recordWebhookEvent input now record with status := advancedBy input record.status }
          ⟨same.key, same.amount, same.payment⟩ rfl outside
        rw [decided]
        exact decides_set claim writes

theorem release_decides (now : ℕ) (releaseTo : StripeRouterStatus) (balance : Option ℤ) (kind : String)
    (detail : EventDetail) (record : StripeFulfillmentRecord) :
    Decides record (releaseClaim now releaseTo balance kind detail record) := by
  apply decides_set
  by_cases paying : record.status = .providerPaying
  · apply Writes.fresh
    · exact ⟨rfl, fun _ locked => locked, fun _ => rfl⟩
    · rw [paying]
      rfl
    · rfl
  · apply Writes.still
    · exact ⟨rfl, fun _ locked => locked, fun _ => rfl⟩
    · simp [StripeFulfillmentRecord.push, paying]
    · rfl

/-- The one writer of a result: it keeps the record where it meets no review. -/
theorem finalize_keeps (now : ℕ) (finalStatus : StripeRouterStatus) (opts : FinalizeOpts)
    (outside : reviewed record.status = false) :
    ∃ next, (finalizeClaim now finalStatus opts record).after (some record) = some next ∧ Keeps record next ∧
      next.providerResult = (opts.providerResult <|> record.providerResult) := by
  refine ⟨_, rfl, ⟨⟨rfl, fun _ locked => locked, fun _ => rfl⟩, ?_⟩, rfl⟩
  intro settled
  rw [outside] at settled
  cases settled

theorem stampCheck_decides (now minInterval : ℕ) (record : StripeFulfillmentRecord) :
    Decides record (stampProviderCheck now minInterval record) := by
  unfold stampProviderCheck
  split_ifs
  · exact decides_noop _
  · exact decides_noop _
  · exact decides_set _ (.still ⟨rfl, fun _ locked => locked, fun _ => rfl⟩ rfl rfl)

theorem outside_of_inFlight (inFlight : status.inFlight = true) : reviewed status = false := by
  cases settled : reviewed status with
  | false => rfl
  | true =>
    rw [reviewed_not_inFlight settled] at inFlight
    cases inFlight

theorem unclosed_of_inFlight (inFlight : status.inFlight = true) : closed status = false := by
  cases status <;> first | rfl | cases inFlight

theorem checkError_decides (now : ℕ) (error : String) (record : StripeFulfillmentRecord) :
    Decides record (recordCheckError now error record) := by
  unfold recordCheckError
  dsimp only
  split_ifs with escalates
  · obtain ⟨_, inFlight, _⟩ := escalates
    exact decides_set _ (.fresh ⟨rfl, fun _ locked => locked, fun _ => rfl⟩ (outside_of_inFlight inFlight) rfl)
  · exact decides_set _ (.still ⟨rfl, fun _ locked => locked, fun _ => rfl⟩ rfl rfl)

theorem check_decides (now : ℕ) (live : LiveState) (record : StripeFulfillmentRecord) :
    Decides record (recordCheck now live record) := by
  have same {next : StripeFulfillmentRecord} (key : next.invoiceKey = record.invoiceKey)
      (amount : next.invoiceAmountAtomic = record.invoiceAmountAtomic)
      (payment : next.rozoPaymentId = record.rozoPaymentId) : Same record next :=
    ⟨key, fun _ locked => amount.trans locked, fun _ => payment⟩
  unfold recordCheck
  dsimp only
  split
  next _ inFlight =>
    exact decides_set _ ⟨same rfl rfl rfl, .closes (unclosed_of_inFlight inFlight) rfl⟩
  next _ inFlight =>
    exact decides_set _ ⟨same rfl rfl rfl, .closes (unclosed_of_inFlight inFlight) rfl⟩
  next => exact decides_set _ (.still (same rfl rfl rfl) rfl rfl)

theorem reopen_decides (now : ℕ) (plan : RetryPlan) (record : StripeFulfillmentRecord) :
    Decides record (reopenAmbiguous now plan record) := by
  unfold reopenAmbiguous
  split_ifs with status
  · exact decides_noop _
  · exact decides_noop _
  · exact decides_noop _
  · have ambiguous : record.status = .providerSubmittedAmbiguous := not_not.mp status
    apply decides_set
    apply Writes.fresh
    · exact ⟨rfl, fun _ locked => locked, fun _ => rfl⟩
    · rw [ambiguous]
      rfl
    · rfl

/-- A resolution that is carried out closes a record in manual review. -/
theorem resolve_decides (args : ManualResolution) (record : StripeFulfillmentRecord) :
    Decides record (resolveManualReview args record) := by
  unfold resolveManualReview
  split_ifs with repeated review
  · exact decides_noop _
  · exact decides_noop _
  · have unclosed : closed record.status = false := by
      rw [not_not.mp review]
      rfl
    dsimp only
    split
    next paid =>
      refine decides_set _ ⟨⟨rfl, fun _ locked => locked, fun _ => rfl⟩, .closes unclosed ?_⟩
      simp [StripeFulfillmentRecord.push, paid, ManualOutcome.status, closed]
    next failed =>
      refine decides_set _ ⟨⟨rfl, fun _ locked => locked, fun _ => rfl⟩, .closes unclosed ?_⟩
      simp [StripeFulfillmentRecord.push, failed, ManualOutcome.status, closed]

/-! ## Records under review -/

/-- A record that a search of the chain can be made for. -/
structure Reviewable (record : StripeFulfillmentRecord) : Prop where
  settled : reviewed record.status = true
  payment : present record.rozoPaymentId = true
  amount : (parseInvoiceAtomic record.invoiceAmountAtomic).isSome = true

theorem Reviewable.of_checkable (checkable : (onchainUncheckableReason record).isNone = true) : Reviewable record := by
  unfold onchainUncheckableReason at checkable
  split_ifs at checkable with other unpaid unparsed
  · cases checkable
  · cases checkable
  · cases checkable
  · constructor
    · rw [not_not.mp other]
      rfl
    · simpa using unpaid
    · simpa [Option.isSome_iff_ne_none] using unparsed

theorem Same.parsed {old new : StripeFulfillmentRecord} (same : Same old new) {amount : ℕ}
    (parsed : parseInvoiceAtomic old.invoiceAmountAtomic = some amount) :
    parseInvoiceAtomic new.invoiceAmountAtomic = some amount := by
  cases locked : old.invoiceAmountAtomic with
  | none =>
    rw [locked] at parsed
    cases parsed
  | some value => rwa [same.amount value locked, ← locked]

theorem Keeps.reviewable {old new : StripeFulfillmentRecord} (keeps : Keeps old new) (reviewable : Reviewable old) :
    Reviewable new := by
  constructor
  · rcases keeps.held reviewable.settled with ⟨status, _⟩ | ⟨_, done⟩
    · rw [status]
      exact reviewable.settled
    · exact closed_reviewed done
  · rw [keeps.same.payment reviewable.payment]
    exact reviewable.payment
  · obtain ⟨amount, parsed⟩ := Option.isSome_iff_exists.mp reviewable.amount
    rw [keeps.same.parsed parsed]
    rfl

end MppRouter.Routes.Stripe.Onchain
