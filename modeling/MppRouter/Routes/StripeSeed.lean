import MppRouter.Routes.StripeTerminal

/-! # Seeding a record again

An order may be created again while its record is being settled. A seed fills the fields that are missing and leaves the
status where the webhooks and the reconciler brought it; nobody else writes a field that a seed has locked.
-/

namespace MppRouter.Routes.Stripe

open Concurrent Mpp Machine Option

/-! ## Locked fields -/

namespace StripeFulfillmentRecord

/-- What is locked in one record is the same in the other. -/
structure Locks (before after : StripeFulfillmentRecord) : Prop where
  merchantAccount : before.merchantAccount.isSome = true → after.merchantAccount = before.merchantAccount
  invoiceAmountAtomic : before.invoiceAmountAtomic.isSome = true →
    after.invoiceAmountAtomic = before.invoiceAmountAtomic
  invoiceCurrency : before.invoiceCurrency.isSome = true → after.invoiceCurrency = before.invoiceCurrency
  lockFingerprint : before.lockFingerprint.isSome = true → after.lockFingerprint = before.lockFingerprint
  stripeUrlEncrypted : before.stripeUrlEncrypted.isSome = true → after.stripeUrlEncrypted = before.stripeUrlEncrypted
  rozoPaymentId : present before.rozoPaymentId = true → after.rozoPaymentId = before.rozoPaymentId

/-- The fields that a seed fills. -/
def lockFields (record : StripeFulfillmentRecord) :
    Option String × Option LockedAmount × Option String × Option String × Option String × Option String :=
  (record.merchantAccount, record.invoiceAmountAtomic, record.invoiceCurrency, record.lockFingerprint,
    record.stripeUrlEncrypted, record.rozoPaymentId)

variable {before middle after : StripeFulfillmentRecord}

theorem Locks.of_eq (same : after.lockFields = before.lockFields) : before.Locks after := by
  simp only [lockFields, Prod.mk.injEq] at same
  obtain ⟨merchant, amount, currency, fingerprint, url, payment⟩ := same
  constructor
  · exact fun _ => merchant
  · exact fun _ => amount
  · exact fun _ => currency
  · exact fun _ => fingerprint
  · exact fun _ => url
  · exact fun _ => payment

theorem Locks.refl (record : StripeFulfillmentRecord) : record.Locks record := .of_eq rfl

/-- A field locked twice over. -/
theorem kept_trans {α : Type} {first second third : Option α} {locked : Option α → Bool}
    (earlier : locked first = true → second = first) (later : locked second = true → third = second)
    (set : locked first = true) : third = first := by
  have same := earlier set
  rw [← same] at set
  exact (later set).trans same

theorem Locks.trans (earlier : before.Locks middle) (later : middle.Locks after) : before.Locks after where
  merchantAccount := kept_trans earlier.merchantAccount later.merchantAccount
  invoiceAmountAtomic := kept_trans earlier.invoiceAmountAtomic later.invoiceAmountAtomic
  invoiceCurrency := kept_trans earlier.invoiceCurrency later.invoiceCurrency
  lockFingerprint := kept_trans earlier.lockFingerprint later.lockFingerprint
  stripeUrlEncrypted := kept_trans earlier.stripeUrlEncrypted later.stripeUrlEncrypted
  rozoPaymentId := kept_trans earlier.rozoPaymentId later.rozoPaymentId

end StripeFulfillmentRecord

/-! ## One seed -/

/-- The record that a seed leaves. -/
def seeded (args : SeedArgs) (now : ℕ) (record : StripeFulfillmentRecord) : StripeFulfillmentRecord :=
  ((seedStripeRecord args now record).after (some record)).getD record

section Seeded

variable (args : SeedArgs) (now : ℕ) (record : StripeFulfillmentRecord)

theorem seedStripeRecord_eq : seedStripeRecord args now record = .set (seeded args now record) () := rfl

theorem seeded_status : (seeded args now record).status = record.status := by
  show (if _ then _ else _) = _
  split_ifs with fresh
  · rcases fresh with lower | created
    · exact absurd lower (Nat.not_lt_zero _)
    · exact created.symm
  · rfl

theorem or_of_isSome {α : Type} {value other : Option α} (set : value.isSome = true) : (value <|> other) = value := by
  obtain ⟨found, rfl⟩ := isSome_iff_exists.mp set
  rfl

theorem seeded_locks : record.Locks (seeded args now record) where
  merchantAccount := or_of_isSome
  invoiceAmountAtomic := or_of_isSome
  invoiceCurrency := or_of_isSome
  lockFingerprint := or_of_isSome
  stripeUrlEncrypted := or_of_isSome
  rozoPaymentId set := by
    show (if _ then _ else _) = _
    rw [set]
    rfl

/-- A first seed locks the amount, the currency, the fingerprint and the pay URL. -/
theorem seeded_sets : (seeded args now record).invoiceAmountAtomic.isSome = true ∧
    (seeded args now record).invoiceCurrency.isSome = true ∧
    (seeded args now record).lockFingerprint.isSome = true ∧
    (seeded args now record).stripeUrlEncrypted.isSome = true := by
  have filled {α : Type} (value : Option α) (given : α) : (value <|> some given).isSome = true := by
    cases value <;> rfl
  exact ⟨filled _ _, filled _ _, filled _ _, filled _ _⟩

theorem or_or_self {α : Type} (value other : Option α) : ((value <|> other) <|> other) = (value <|> other) := by
  cases value with
  | none => cases other <;> rfl
  | some found => rfl

/-- The payment id that a seed leaves. -/
def filledPayment (stored given : Option String) : Option String :=
  if !present stored && present given then given else stored

theorem filledPayment_twice (stored given : Option String) :
    filledPayment (filledPayment stored given) given = filledPayment stored given := by
  by_cases fills : (!present stored && present given) = true
  · have given' : present given = true := ((Bool.and_eq_true _ _).mp fills).2
    rw [filledPayment, filledPayment, if_pos fills, given']
    rfl
  · rw [filledPayment, filledPayment, if_neg fills, if_neg fills]

theorem seeded_eq : seeded args now record = { record with
    merchantAccount := record.merchantAccount <|> args.merchantAccount
    invoiceAmountAtomic := record.invoiceAmountAtomic <|> some args.invoiceAmountAtomic
    invoiceCurrency := record.invoiceCurrency <|> some args.invoiceCurrency
    lockFingerprint := record.lockFingerprint <|> some args.lockFingerprint
    stripeUrlEncrypted := record.stripeUrlEncrypted <|> some args.stripeUrlEncrypted
    sessionIndexed := record.sessionIndexed || args.indexed
    rozoPaymentId := filledPayment record.rozoPaymentId args.rozoPaymentId
    events := { kind := "rozo_payment_created", at_ := now, detail := .invoice } :: record.events } := by
  have status := seeded_status args now record
  simp only [seeded, seedStripeRecord, Decision.after, getD_some, StripeFulfillmentRecord.push] at status ⊢
  rw [status]
  rfl

/-- The same seed again only adds to the trail. -/
theorem seeded_again (later : ℕ) : seeded args later (seeded args now record) =
    (seeded args now record).push { kind := "rozo_payment_created", at_ := later, detail := .invoice } := by
  rw [seeded_eq args later, seeded_eq args now]
  simp only [or_or_self, filledPayment_twice, Bool.or_assoc, Bool.or_self, StripeFulfillmentRecord.push]

end Seeded

/-! ## The other writers -/

open StripeFulfillmentRecord

variable {record : StripeFulfillmentRecord}

/-- A decision that leaves the locked fields as they are. -/
def Leaves {R : Type} (record : StripeFulfillmentRecord) (decision : Decision StripeFulfillmentRecord R) : Prop :=
  ∃ next, decision.after (some record) = some next ∧ next.lockFields = record.lockFields

theorem leaves_noop {R : Type} (result : R) : Leaves record (.noop result) := ⟨record, rfl, rfl⟩

theorem leaves_set {R : Type} {next : StripeFulfillmentRecord} (result : R)
    (same : next.lockFields = record.lockFields) : Leaves record (.set next result) := ⟨next, rfl, same⟩

theorem claimLocked_leaves (noted : StripeFulfillmentRecord) :
    ∃ next claim, claimLocked noted = .set next claim ∧ next.lockFields = noted.lockFields := by
  unfold claimLocked
  split_ifs
  · exact ⟨_, _, rfl, rfl⟩
  · split
    · split_ifs
      · exact ⟨_, _, rfl, rfl⟩
      · exact ⟨_, _, rfl, rfl⟩
    · exact ⟨_, _, rfl, rfl⟩

/-- A webhook event fills in the payment it is about, and touches no other field that a seed locks. -/
theorem claim_locks (input : StripeWebhookInput) (now : ℕ) (record : StripeFulfillmentRecord) :
    ∃ next, (claimStripeRecord input now record).after (some record) = some next ∧ record.Locks next := by
  have noted : ∀ status, record.Locks { recordWebhookEvent input now record with status } := by
    intro status
    refine ⟨fun _ => rfl, fun _ => rfl, fun _ => rfl, fun _ => rfl, fun _ => rfl, fun set => ?_⟩
    simp only [recordWebhookEvent, set, if_true]
  unfold claimStripeRecord
  dsimp only
  split_ifs
  · exact ⟨_, rfl, noted _⟩
  · exact ⟨_, rfl, noted _⟩
  · exact ⟨_, rfl, noted _⟩
  · exact ⟨_, rfl, noted _⟩
  · obtain ⟨next, claim, decided, same⟩ := claimLocked_leaves
      { recordWebhookEvent input now record with status := advancedBy input (recordWebhookEvent input now record).status }
    rw [decided]
    exact ⟨next, rfl, (noted _).trans (.of_eq same)⟩

theorem stampCheck_leaves (now minInterval : ℕ) : Leaves record (stampProviderCheck now minInterval record) := by
  unfold stampProviderCheck
  split_ifs
  · exact leaves_noop _
  · exact leaves_noop _
  · exact leaves_set _ rfl

theorem checkError_leaves (now : ℕ) (error : String) : Leaves record (recordCheckError now error record) := by
  unfold recordCheckError
  dsimp only
  split_ifs
  · exact leaves_set _ rfl
  · exact leaves_set _ rfl

theorem check_leaves (now : ℕ) (live : LiveState) : Leaves record (recordCheck now live record) := by
  unfold recordCheck
  dsimp only
  split
  · exact leaves_set _ rfl
  · exact leaves_set _ rfl
  · exact leaves_set _ rfl

theorem reopen_leaves (now : ℕ) (plan : RetryPlan) : Leaves record (reopenAmbiguous now plan record) := by
  unfold reopenAmbiguous
  split_ifs
  · exact leaves_noop _
  · exact leaves_noop _
  · exact leaves_noop _
  · exact leaves_set _ rfl

theorem resolve_leaves (args : ManualResolution) : Leaves record (resolveManualReview args record) := by
  unfold resolveManualReview
  split_ifs
  · exact leaves_noop _
  · exact leaves_noop _
  · dsimp only
    split
    · exact leaves_set _ rfl
    · exact leaves_set _ rfl

theorem Leaves.locks {R : Type} {decision : Decision StripeFulfillmentRecord R} (leaves : Leaves record decision) :
    ∃ next, decision.after (some record) = some next ∧ record.Locks next := by
  obtain ⟨next, decided, same⟩ := leaves
  exact ⟨next, decided, .of_eq same⟩

/-- No operation changes a locked field. -/
theorem RecordOp.locks (op : RecordOp) (invoiceKey : String) (record : StripeFulfillmentRecord) :
    ∃ next, (op.decide invoiceKey (some record)).after (some record) = some next ∧ record.Locks next := by
  cases op with
  | load | inspect => exact ⟨record, rfl, .refl record⟩
  | seed args now => exact ⟨seeded args now record, rfl, seeded_locks args now record⟩
  | claim input now => exact claim_locks input now record
  | release | finalize => exact ⟨_, rfl, .of_eq rfl⟩
  | stampCheck now minInterval => exact (stampCheck_leaves now minInterval).locks
  | recordCheckError now error => exact (checkError_leaves now error).locks
  | recordCheck now live => exact (check_leaves now live).locks
  | reopen now plan => exact (reopen_leaves now plan).locks
  | resolve args => exact (resolve_leaves args).locks

/-! ## Runs -/

theorem run_locks {admits : stripeMachine.Admits} {before after : stripeMachine.Config}
    (run : Run admits before after) {invoiceKey : String}
    (stored : before.world.records invoiceKey = some record) :
    ∃ later, after.world.records invoiceKey = some later ∧ record.Locks later := by
  induction run with
  | refl => exact ⟨record, stored, .refl record⟩
  | tail _ step ih =>
    obtain ⟨middle, found, sofar⟩ := ih
    rcases step_record step found with same | ⟨tid, op, choice, _, wrote⟩
    · exact ⟨middle, same, sofar⟩
    · obtain ⟨next, decided, locks⟩ := op.locks invoiceKey middle
      exact ⟨next, wrote.trans decided, sofar.trans locks⟩

section Seeding

variable {tid : ℕ} {invoiceKey : String} {args : SeedArgs} {now : ℕ} {choice : Choice} {before after : World}
  {answer : Option Unit}
  (performed : stripeMachine.perform tid (.record invoiceKey (.seed args now)) choice before = some (answer, after))

include performed

/-- What a seed that took effect leaves in the store. -/
theorem seed_performs : answer = none ∧ after = before ∨
      after.records invoiceKey = some (seeded args now ((before.records invoiceKey).getD (emptyStripeRecord invoiceKey))) := by
  rcases fault_cases (some.inj performed) with ⟨threw, same⟩ | ⟨_, wrote⟩
  · exact .inl ⟨threw, same⟩
  · right
    rw [wrote]
    exact Function.update_self ..

/-- A seed at any moment: a record that is there keeps its status and all that is locked in it; one that a seed wrote
has its amount, currency, fingerprint and pay URL locked, and the same seed again only adds to its trail; and whatever
runs afterwards, further seeds among it, leaves every locked field as it is. -/
theorem seed_keeps_record :
    (∀ record, before.records invoiceKey = some record → ∃ next, after.records invoiceKey = some next ∧
      next.status = record.status ∧ record.Locks next) ∧
    (answer = some () → ∃ next, after.records invoiceKey = some next ∧
      next.invoiceAmountAtomic.isSome = true ∧ next.invoiceCurrency.isSome = true ∧ next.lockFingerprint.isSome = true ∧
      next.stripeUrlEncrypted.isSome = true ∧
      ∀ later, seedStripeRecord args later next =
        .set (next.push { kind := "rozo_payment_created", at_ := later, detail := .invoice }) ()) ∧
    ∀ threads finish, Run (unrestricted stripeMachine) ⟨after, threads⟩ finish →
      ∀ next, after.records invoiceKey = some next →
        ∃ later, finish.world.records invoiceKey = some later ∧ next.Locks later := by
  refine ⟨?_, ?_, fun threads finish run next stored => run_locks run stored⟩
  · intro record stored
    rcases seed_performs performed with ⟨_, rfl⟩ | wrote
    · exact ⟨record, stored, rfl, .refl record⟩
    · rw [stored, getD_some] at wrote
      exact ⟨_, wrote, seeded_status args now record, seeded_locks args now record⟩
  · rintro rfl
    rcases seed_performs performed with ⟨threw, _⟩ | wrote
    · cases threw
    · obtain ⟨amount, currency, fingerprint, url⟩ :=
        seeded_sets args now ((before.records invoiceKey).getD (emptyStripeRecord invoiceKey))
      refine ⟨_, wrote, amount, currency, fingerprint, url, fun later => ?_⟩
      rw [seedStripeRecord_eq, seeded_again]

end Seeding

/-- A paid record is seeded again. -/
theorem seed_keeps_record_paid : ∃ before after : World,
    stripeMachine.perform 0 (.record "cpis_a" (.seed seedOfHundred 7)) {} before = some (some (), after) ∧
    statusIs before "cpis_a" .paid = true ∧
    ∃ record next, before.records "cpis_a" = some record ∧ after.records "cpis_a" = some next ∧
      next.status = record.status ∧ record.Locks next := by
  let paid : StripeFulfillmentRecord := { seeded seedOfHundred 0 (emptyStripeRecord "cpis_a") with status := .paid }
  let before := World.store (.fresh (capOf 200000000)) "cpis_a" paid
  have performed : stripeMachine.perform 0 (.record "cpis_a" (.seed seedOfHundred 7)) {} before =
      some (some (), before.store "cpis_a" (seeded seedOfHundred 7 paid)) := rfl
  obtain ⟨next, stored, status, locks⟩ := (seed_keeps_record performed).1 paid rfl
  exact ⟨before, _, performed, rfl, paid, next, rfl, stored, status, locks⟩

end MppRouter.Routes.Stripe
