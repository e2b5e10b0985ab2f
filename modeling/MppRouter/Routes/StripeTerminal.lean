import MppRouter.Routes.StripeSingleFlight

/-! # Terminal statuses

Every writer of a record looks at the status it replaces, except that `finalizeClaim` looks only for
`paid`: an outcome that comes in after the reconciler or a human has closed the record takes the status
back. While no such outcome comes in, only a human moves a closed record.
-/

namespace MppRouter.Routes.Stripe

open Concurrent Mpp Machine Option

/-- An outcome does not meet a record that was closed in another way. -/
def openOutcome (action : Action) (world : World) : Bool :=
  match action with
  | .record invoiceKey (.finalize _ finalStatus _) =>
    (world.records invoiceKey).all fun record =>
      !record.status.terminal || record.status = .paid || record.status = finalStatus
  | _ => true

abbrev OpenOutcome : stripeMachine.Admits := fun _ action _ world => openOutcome action world = true

/-- A human moved the record out of manual review. -/
def Resolved (before after : StripeFulfillmentRecord) : Prop :=
  before.status = .manualReview ∧ ∃ args, after.manualResolution = some args ∧ after.status = args.resolution.status

/-- A closed record is as closed as it was, or a human resolved it. -/
def Stays (before after : StripeFulfillmentRecord) : Prop :=
  after.status = before.status ∧ after.manualResolution = before.manualResolution ∨ Resolved before after

theorem Stays.refl (record : StripeFulfillmentRecord) : Stays record record := .inl ⟨rfl, rfl⟩

theorem Stays.terminal {before after : StripeFulfillmentRecord} (stays : Stays before after)
    (terminal : before.status.terminal = true) : after.status.terminal = true := by
  rcases stays with ⟨same, _⟩ | ⟨_, args, _, resolved⟩
  · rwa [same]
  · rw [resolved]
    cases args.resolution <;> rfl

theorem Stays.trans {first second third : StripeFulfillmentRecord} (stays : Stays first second)
    (later : Stays second third) : Stays first third := by
  rcases stays with ⟨same, kept⟩ | ⟨review, args, resolution, resolved⟩
  · rcases later with ⟨same', kept'⟩ | ⟨review, resolved⟩
    · exact .inl ⟨same'.trans same, kept'.trans kept⟩
    · exact .inr ⟨same ▸ review, resolved⟩
  · rcases later with ⟨same, kept⟩ | ⟨review', _⟩
    · exact .inr ⟨review, args, kept.trans resolution, same.trans resolved⟩
    · rw [resolved] at review'
      cases outcome : args.resolution <;> simp [outcome, ManualOutcome.status] at review'

/-! ## Steps -/

/-- What is decided on a record leaves it closed. -/
def Closes {R : Type} (record : StripeFulfillmentRecord) (decision : Decision StripeFulfillmentRecord R) : Prop :=
  ∃ next, decision.after (some record) = some next ∧ Stays record next

variable {record next : StripeFulfillmentRecord}

theorem closes_noop {R : Type} (result : R) : Closes record (.noop result) := ⟨record, rfl, .refl record⟩

theorem closes_set {R : Type} (result : R) (status : next.status = record.status)
    (resolution : next.manualResolution = record.manualResolution) : Closes record (.set next result) :=
  ⟨next, rfl, .inl ⟨status, resolution⟩⟩

theorem terminal_not_inFlight {status : StripeRouterStatus} (terminal : status.terminal = true) :
    status.inFlight = false := by
  cases status <;> first | rfl | cases terminal

theorem seed_closes (args : SeedArgs) (now : ℕ) (record : StripeFulfillmentRecord) :
    Closes record (seedStripeRecord args now record) := by
  refine closes_set () ?_ rfl
  show (if _ then _ else _) = _
  split_ifs with fresh
  · rcases fresh with lower | created
    · simp [StripeRouterStatus.rank] at lower
    · exact created.symm
  · rfl

theorem claim_closes (input : StripeWebhookInput) (now : ℕ) (terminal : record.status.terminal = true) :
    Closes record (claimStripeRecord input now record) := by
  have status : (recordWebhookEvent input now record).status = record.status := rfl
  simp only [claimStripeRecord, status, terminal, if_true]
  exact closes_set _ rfl rfl

theorem release_closes (now : ℕ) (releaseTo : StripeRouterStatus) (balance : Option ℤ) (kind : String)
    (detail : EventDetail) (terminal : record.status.terminal = true) :
    Closes record (releaseClaim now releaseTo balance kind detail record) := by
  have closed : record.status ≠ .providerPaying := by
    rintro paying
    rw [paying] at terminal
    cases terminal
  exact closes_set () (by simp [StripeFulfillmentRecord.push, closed]) rfl

/-- The one writer without a guard of its own. -/
theorem finalize_closes (now : ℕ) {finalStatus : StripeRouterStatus} (opts : FinalizeOpts)
    (meets : record.status = .paid ∨ record.status = finalStatus) :
    Closes record (finalizeClaim now finalStatus opts record) := by
  refine closes_set () ?_ rfl
  show (if _ then _ else _) = _
  split_ifs with unpaid
  · exact (meets.resolve_left unpaid).symm
  · rfl

theorem stampCheck_closes (now minInterval : ℕ) (terminal : record.status.terminal = true) :
    Closes record (stampProviderCheck now minInterval record) := by
  have settled := terminal_not_inFlight terminal
  simp only [stampProviderCheck, settled, Bool.not_false, if_true]
  exact closes_noop false

theorem checkError_closes (now : ℕ) (error : String) (terminal : record.status.terminal = true) :
    Closes record (recordCheckError now error record) := by
  have settled := terminal_not_inFlight terminal
  unfold recordCheckError
  dsimp only
  split_ifs with escalates
  · have inFlight : record.status.inFlight = true := escalates.2.1
    rw [settled] at inFlight
    cases inFlight
  · exact closes_set false rfl rfl

theorem check_closes (now : ℕ) (live : LiveState) (terminal : record.status.terminal = true) :
    Closes record (recordCheck now live record) := by
  have settled := terminal_not_inFlight terminal
  unfold recordCheck
  dsimp only
  split
  next _ inFlight => simp [settled] at inFlight
  next _ inFlight => simp [settled] at inFlight
  next => exact closes_set () rfl rfl

theorem reopen_closes (now : ℕ) (plan : RetryPlan) (terminal : record.status.terminal = true) :
    Closes record (reopenAmbiguous now plan record) := by
  rcases reopenAmbiguous_cases now plan record with refused | ⟨_, _, ambiguous, _⟩
  · rw [refused]
    exact closes_noop false
  · rw [ambiguous] at terminal
    cases terminal

theorem resolve_closes (args : ManualResolution) (record : StripeFulfillmentRecord) :
    Closes record (resolveManualReview args record) := by
  unfold resolveManualReview
  split_ifs with repeated review
  · exact closes_noop _
  · exact closes_noop _
  · have review : record.status = .manualReview := not_not.mp review
    dsimp only
    split
    · exact ⟨_, rfl, .inr ⟨review, args, rfl, rfl⟩⟩
    · exact ⟨_, rfl, .inr ⟨review, args, rfl, rfl⟩⟩

variable {invoiceKey : String}

/-- Every operation on a record leaves a closed one closed. -/
theorem RecordOp.closes {tid : ℕ} {op : RecordOp} {choice : Choice} {world : World}
    (stored : world.records invoiceKey = some record) (terminal : record.status.terminal = true)
    (meets : OpenOutcome tid (.record invoiceKey op) choice world) :
    Closes record (op.decide invoiceKey (some record)) := by
  cases op with
  | load | inspect => exact closes_noop _
  | seed args now => exact seed_closes args now record
  | claim input now => exact claim_closes input now terminal
  | release now releaseTo balance kind detail => exact release_closes now releaseTo balance kind detail terminal
  | finalize now finalStatus opts =>
    have same : record.status = .paid ∨ record.status = finalStatus := by
      simpa [OpenOutcome, openOutcome, stored, terminal] using meets
    exact finalize_closes now opts same
  | stampCheck now minInterval => exact stampCheck_closes now minInterval terminal
  | recordCheckError now error => exact checkError_closes now error terminal
  | recordCheck now live => exact check_closes now live terminal
  | reopen now plan => exact reopen_closes now plan terminal
  | resolve args => exact resolve_closes args record

theorem step_record {admits : stripeMachine.Admits} {before after : stripeMachine.Config} (step : Step admits before after)
    (stored : before.world.records invoiceKey = some record) :
    after.world.records invoiceKey = some record ∨ ∃ tid op choice,
      admits tid (.record invoiceKey op) choice before.world ∧
      after.world.records invoiceKey = (op.decide invoiceKey (some record)).after (some record) := by
  cases step with | @mk tid action choice rest answer world next meets performed => ?_
  have unchanged (same : world.records = before.world.records) : world.records invoiceKey = some record := by
    rw [same, stored]
  cases action with
  | record touched op =>
    rcases fault_cases (some.inj performed) with ⟨_, rfl⟩ | ⟨_, rfl⟩
    · exact .inl (unchanged rfl)
    · by_cases same : invoiceKey = touched
      · subst same
        refine .inr ⟨tid, op, choice, meets, ?_⟩
        rw [← stored]
        exact Function.update_self ..
      · exact .inl ((Function.update_of_ne same ..).trans stored)
  | guard touched op =>
    left
    apply unchanged
    rcases fault_cases (some.inj performed) with ⟨_, rfl⟩ | ⟨_, rfl⟩
    · rfl
    · cases op with
      | claimInvoice | releaseDailySpend => rfl
      | reserveDailySpend now delta =>
        simp only [GuardOp.perform]
        split_ifs <;> rfl
  | resolveStripeInvoice touched =>
    left
    simp only [some.injEq, perform] at performed
    split at performed <;> cases performed <;> exact unchanged rfl
  | scan | checkoutDeliveryPaused | funderBalance | decryptCapability | send | receive =>
    left
    cases performed
    exact unchanged rfl

theorem step_closes {before after : stripeMachine.Config} (step : Step OpenOutcome before after)
    (stored : before.world.records invoiceKey = some record) (terminal : record.status.terminal = true) :
    ∃ next, after.world.records invoiceKey = some next ∧ Stays record next := by
  rcases step_record step stored with same | ⟨tid, op, choice, meets, wrote⟩
  · exact ⟨record, same, .refl record⟩
  · rw [wrote]
    exact RecordOp.closes stored terminal meets

/-! ## Runs -/

/-- Once a record is closed, nothing but a human's resolution of a manual review changes its status, as
long as no outcome meets it closed in another way. -/
theorem terminal_stays {before after : stripeMachine.Config} (run : Run OpenOutcome before after)
    {invoiceKey : String} (stored : before.world.records invoiceKey = some record)
    (terminal : record.status.terminal = true) :
    ∃ next, after.world.records invoiceKey = some next ∧ (next.status = record.status ∨ Resolved record next) := by
  have stays : ∃ next, after.world.records invoiceKey = some next ∧ Stays record next := by
    induction run with
    | refl => exact ⟨record, stored, .refl record⟩
    | tail _ step ih =>
      obtain ⟨middle, found, sofar⟩ := ih
      obtain ⟨next, now, later⟩ := step_closes step found (sofar.terminal terminal)
      exact ⟨next, now, sofar.trans later⟩
  obtain ⟨next, found, stays⟩ := stays
  exact ⟨next, found, stays.imp And.left id⟩

/-! ## An outcome that reopens -/

/-- A payin event, and a reconciler pass while its call is out. -/
def payinAndCheck : ℕ → Request
  | 0 => .seed "cpis_a" seedOfHundred 0
  | 1 => .webhook ⟨"cpis_a", ⟨"event", "payment_payin_completed", none⟩, 1⟩
  | _ => .reconcile "cpis_a" 20000 reconcileMinIntervalMs

/-- Stripe reports the session canceled. -/
def canceledCheck : List (ℕ × Choice) := [(2, {}), (2, {}), (2, { reply := .live "canceled" none }), (2, {})]

/-- The reconciler closes the record while the call is out. -/
def closedUnderCall : List (ℕ × Choice) := (0, {}) :: (settleSteps 1 ++ canceledCheck)

def statusIs (world : World) (invoiceKey : String) (status : StripeRouterStatus) : Bool :=
  (world.records invoiceKey).any fun record => record.status = status

theorem statusIs_iff {world : World} {status : StripeRouterStatus} :
    statusIs world invoiceKey status = true ↔ ∃ record, world.records invoiceKey = some record ∧ record.status = status := by
  simp [statusIs, any_eq_true]

/-- The call is answered with the fail-closed switch after the reconciler closed the record. -/
theorem failed_provider_reopened : ∃ before after, Run (unrestricted stripeMachine)
      (serving (capOf 200000000) payinAndCheck) before ∧ Run (unrestricted stripeMachine) before after ∧
      statusIs before.world "cpis_a" .failedProvider = true ∧
      statusIs after.world "cpis_a" .providerDisabled = true := by
  obtain ⟨before, after, run, later, found⟩ := Config.exec_reaches_then (unrestricted stripeMachine)
    (serving (capOf 200000000) payinAndCheck) closedUnderCall
    [(1, { pay := .answered 403 (some { code := some "stripe_fulfillment_disabled" }) }), (1, {}), (1, {})]
    (fun before after => statusIs before "cpis_a" .failedProvider && statusIs after "cpis_a" .providerDisabled) rfl
  exact ⟨before, after, run, later, (Bool.and_eq_true _ _).mp found⟩

theorem terminal_stays_failed : ∃ before after, Run OpenOutcome
      (serving (capOf 200000000) payinAndCheck) before ∧ Run OpenOutcome before after ∧
      statusIs before.world "cpis_a" .failedProvider = true ∧
      ∃ record next, after.world.records "cpis_a" = some next ∧ record.status = .failedProvider ∧
        (next.status = record.status ∨ Resolved record next) := by
  obtain ⟨before, after, run, later, found⟩ := Config.exec_reaches_then OpenOutcome
    (serving (capOf 200000000) payinAndCheck) closedUnderCall [(1, {})]
    (fun before _ => statusIs before "cpis_a" .failedProvider) rfl
  obtain ⟨record, stored, failed⟩ := statusIs_iff.mp found
  have terminal : record.status.terminal = true := by rw [failed]; rfl
  obtain ⟨next, now, stays⟩ := terminal_stays later stored terminal
  exact ⟨before, after, run, later, found, record, next, now, failed, stays⟩

end MppRouter.Routes.Stripe
