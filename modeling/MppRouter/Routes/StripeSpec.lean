import MppRouter.Routes.StripeFlow

/-! # What each operation does

Inversion lemmas for the writers of a record and for the history they leave. The results about runs
use nothing else of the definitions.
-/

namespace MppRouter.Routes.Stripe

open Concurrent Mpp Function

/-! ## Writers of a record -/

/-- Nothing but the handler that claimed the record leads from here to another claim. -/
def StripeRouterStatus.guarded (status : StripeRouterStatus) : Bool :=
  status.terminal || decide (status = .providerPaying)

theorem guarded_not_claimable {status : StripeRouterStatus} (guarded : status.guarded = true) :
    status.claimable = false := by
  cases status <;> first | rfl | cases guarded

theorem guarded_not_ambiguous {status : StripeRouterStatus} (guarded : status.guarded = true) :
    status ≠ .providerSubmittedAmbiguous := by
  rintro rfl
  cases guarded

/-- A step of a writer that neither claims the record, nor gives it back, nor re-opens it. -/
structure Moves (before after : StripeFulfillmentRecord) : Prop where
  status : after.status = before.status ∨
    (before.status.inFlight = true ∨ before.status = .manualReview) ∧ after.status.terminal = true
  retries : after.ambiguousRetries = before.ambiguousRetries

theorem Moves.guarded {before after : StripeFulfillmentRecord} (moves : Moves before after)
    (guarded : before.status.guarded = true) : after.status.guarded = true := by
  rcases moves.status with same | ⟨_, terminal⟩
  · rwa [same]
  · simp [StripeRouterStatus.guarded, terminal]

theorem Moves.claimable {before after : StripeFulfillmentRecord} (moves : Moves before after)
    (claimable : after.status.claimable = true) : before.status.claimable = true := by
  rcases moves.status with same | ⟨_, terminal⟩
  · rwa [← same]
  · simp [StripeRouterStatus.claimable, terminal] at claimable

theorem lastReconcileCheck_push {record : StripeFulfillmentRecord} {event : RecordEvent} {check : ReconcileCheck}
    (plain : event.detail.isLive = false) (last : lastReconcileCheck (record.push event) = some check) :
    lastReconcileCheck record = some check := by
  have nothing : event.check = none := by
    unfold RecordEvent.check
    cases same : event.detail with
    | live live => simp [same, EventDetail.isLive] at plain
    | _ => rfl
  simp only [lastReconcileCheck, StripeFulfillmentRecord.push, List.find?_cons] at last
  split at last
  · simp [nothing] at last
  · exact last

theorem seedStripeRecord_moves (args : SeedArgs) (now : ℕ) (record : StripeFulfillmentRecord) :
    ∃ seeded, seedStripeRecord args now record = .set seeded () ∧ Moves record seeded ∧
      ∀ check, lastReconcileCheck seeded = some check → lastReconcileCheck record = some check := by
  refine ⟨_, rfl, ⟨.inl ?_, rfl⟩, fun check last => lastReconcileCheck_push rfl last⟩
  show (if _ then _ else _) = _
  split_ifs with fresh
  · rcases fresh with lower | same
    · simp [StripeRouterStatus.rank] at lower
    · exact same.symm
  · rfl

theorem claimLocked_cases (record : StripeFulfillmentRecord) :
    ∃ next claim, claimLocked record = .set next claim ∧ next.ambiguousRetries = record.ambiguousRetries ∧
      lastReconcileCheck next = lastReconcileCheck record ∧
      ((∃ invoiceAtomic, claim = .claimed invoiceAtomic ∧ 0 < invoiceAtomic ∧ next.status = .providerPaying) ∨
        (∀ invoiceAtomic, claim ≠ .claimed invoiceAtomic) ∧ next.status = .manualReview) := by
  unfold claimLocked
  split_ifs
  · exact ⟨_, _, rfl, rfl, rfl, .inr ⟨nofun, rfl⟩⟩
  · split
    · split_ifs with nonpositive
      · exact ⟨_, _, rfl, rfl, rfl, .inr ⟨nofun, rfl⟩⟩
      · exact ⟨_, _, rfl, rfl, rfl, .inl ⟨_, rfl, by omega, rfl⟩⟩
    · exact ⟨_, _, rfl, rfl, rfl, .inr ⟨nofun, rfl⟩⟩

theorem claimStripeRecord_cases (input : StripeWebhookInput) (now : ℕ) (record : StripeFulfillmentRecord) :
    ∃ next claim, claimStripeRecord input now record = .set next claim ∧
      next.ambiguousRetries = record.ambiguousRetries ∧
      (∀ check, lastReconcileCheck next = some check → lastReconcileCheck record = some check) ∧
      ((∃ invoiceAtomic, claim = .claimed invoiceAtomic ∧ 0 < invoiceAtomic ∧ record.status.claimable = true ∧
          next.status = .providerPaying) ∨
        (∀ invoiceAtomic, claim ≠ .claimed invoiceAtomic) ∧
          (next.status = record.status ∨ record.status.claimable = true ∧ next.status = .payinSeen ∨
            record.status.claimable = true ∧ next.status = .manualReview)) := by
  have noted : ∀ check, lastReconcileCheck (recordWebhookEvent input now record) = some check →
      lastReconcileCheck record = some check := fun check last => lastReconcileCheck_push rfl last
  have status : (recordWebhookEvent input now record).status = record.status := rfl
  have claimable (open_ : ¬ record.status.terminal = true) (idle : ¬ record.status.inFlight = true) :
      record.status.claimable = true := by
    simp [StripeRouterStatus.claimable, open_, idle]
  by_cases terminal : record.status.terminal = true
  · simp only [claimStripeRecord, status, terminal, if_true]
    exact ⟨_, _, rfl, rfl, noted, .inr ⟨nofun, .inl rfl⟩⟩
  · by_cases inFlight : record.status.inFlight = true
    · simp only [claimStripeRecord, status, terminal, inFlight, if_true, Bool.false_eq_true, if_false]
      exact ⟨_, _, rfl, rfl, noted, .inr ⟨nofun, .inl rfl⟩⟩
    · simp only [claimStripeRecord, status, terminal, inFlight, Bool.false_eq_true, if_false]
      split_ifs with ignored created
      · exact ⟨_, _, rfl, rfl, noted, .inr ⟨nofun, .inr (.inl ⟨claimable terminal inFlight, rfl⟩)⟩⟩
      · exact ⟨_, _, rfl, rfl, noted, .inr ⟨nofun, .inl rfl⟩⟩
      · obtain ⟨next, claim, decided, retries, check, outcome⟩ :=
          claimLocked_cases { recordWebhookEvent input now record with status := advancedBy input record.status }
        refine ⟨next, claim, decided, retries, fun last same => noted last (check ▸ same), ?_⟩
        rcases outcome with ⟨invoiceAtomic, claimed, positive, paying⟩ | ⟨unclaimed, review⟩
        · exact .inl ⟨invoiceAtomic, claimed, positive, claimable terminal inFlight, paying⟩
        · exact .inr ⟨unclaimed, .inr (.inr ⟨claimable terminal inFlight, review⟩)⟩

theorem stampProviderCheck_moves (now minInterval : ℕ) (record : StripeFulfillmentRecord) :
    stampProviderCheck now minInterval record = .noop false ∨
      ∃ stamped, stampProviderCheck now minInterval record = .set stamped true ∧ Moves record stamped ∧
        lastReconcileCheck stamped = lastReconcileCheck record := by
  unfold stampProviderCheck
  split_ifs
  · exact .inl rfl
  · exact .inl rfl
  · exact .inr ⟨_, rfl, ⟨.inl rfl, rfl⟩, rfl⟩

theorem recordCheckError_moves (now : ℕ) (error : String) (record : StripeFulfillmentRecord) :
    ∃ next escalated, recordCheckError now error record = .set next escalated ∧ Moves record next ∧
      ∀ check, lastReconcileCheck next = some check → lastReconcileCheck record = some check := by
  have noted : Moves record (noteCheckError now error record) := ⟨.inl rfl, rfl⟩
  have check : ∀ check, lastReconcileCheck (noteCheckError now error record) = some check →
      lastReconcileCheck record = some check := fun check last => lastReconcileCheck_push rfl last
  unfold recordCheckError
  dsimp only
  split_ifs with escalates
  · obtain ⟨_, inFlight, _⟩ := escalates
    exact ⟨_, _, rfl, ⟨.inr ⟨.inl inFlight, rfl⟩, rfl⟩, fun last same => check last (lastReconcileCheck_push rfl same)⟩
  · exact ⟨_, _, rfl, noted, check⟩

theorem recordCheck_moves (now : ℕ) (live : LiveState) (record : StripeFulfillmentRecord) :
    ∃ next, recordCheck now live record = .set next () ∧ Moves record next ∧
      ∀ check, lastReconcileCheck next = some check → lastReconcileCheck record = some check ∨ check.live = live := by
  unfold recordCheck
  dsimp only
  split
  next transition inFlight =>
    exact ⟨_, rfl, ⟨.inr ⟨.inl inFlight, rfl⟩, rfl⟩, fun check last => .inl last⟩
  next transition inFlight =>
    exact ⟨_, rfl, ⟨.inr ⟨.inl inFlight, rfl⟩, rfl⟩, fun check last => .inl last⟩
  next =>
    refine ⟨_, rfl, ⟨.inl rfl, rfl⟩, fun check last => .inr ?_⟩
    cases last
    rfl

/-- Re-opening touches an ambiguous record that is as it was inspected, or nothing. -/
theorem reopenAmbiguous_cases (now : ℕ) (plan : RetryPlan) (record : StripeFulfillmentRecord) :
    reopenAmbiguous now plan record = .noop false ∨
      ∃ next, reopenAmbiguous now plan record = .set next true ∧
        record.status = .providerSubmittedAmbiguous ∧ record.ambiguousRetries = plan.attempts ∧
        next.status = .payoutSeen ∧ next.ambiguousRetries = plan.attempts + 1 ∧
        ∀ check, lastReconcileCheck next = some check → lastReconcileCheck record = some check := by
  unfold reopenAmbiguous
  split_ifs with status attempts last
  · exact .inl rfl
  · exact .inl rfl
  · exact .inl rfl
  · exact .inr ⟨_, rfl, not_not.mp status, not_not.mp attempts, rfl, rfl, fun check last => lastReconcileCheck_push rfl last⟩

theorem resolveManualReview_moves (args : ManualResolution) (record : StripeFulfillmentRecord) :
    (∃ outcome, resolveManualReview args record = .noop outcome) ∨
      ∃ next outcome, resolveManualReview args record = .set next outcome ∧ Moves record next ∧
        ∀ check, lastReconcileCheck next = some check → lastReconcileCheck record = some check := by
  unfold resolveManualReview
  split_ifs with repeated review
  · exact .inl ⟨_, rfl⟩
  · exact .inl ⟨_, rfl⟩
  · right
    have review : record.status = .manualReview := not_not.mp review
    dsimp only
    split
    next paid =>
      exact ⟨_, _, rfl, ⟨.inr ⟨.inr review, by simp [StripeFulfillmentRecord.push, paid, ManualOutcome.status,
        StripeRouterStatus.terminal]⟩, rfl⟩, fun check last => lastReconcileCheck_push rfl last⟩
    next failed =>
      exact ⟨_, _, rfl, ⟨.inr ⟨.inr review, by simp [StripeFulfillmentRecord.push, failed, ManualOutcome.status,
        StripeRouterStatus.terminal]⟩, rfl⟩, fun check last => lastReconcileCheck_push rfl last⟩

theorem releaseClaim_decides (now : ℕ) (releaseTo : StripeRouterStatus) (balance : Option ℤ) (kind : String)
    {detail : EventDetail} (plain : detail.isLive = false) (record : StripeFulfillmentRecord) :
    ∃ next, releaseClaim now releaseTo balance kind detail record = .set next () ∧
      next.ambiguousRetries = record.ambiguousRetries ∧
      (next.status = if record.status = .providerPaying then releaseTo else record.status) ∧
      ∀ check, lastReconcileCheck next = some check → lastReconcileCheck record = some check := by
  refine ⟨_, rfl, rfl, ?_, fun _ last => lastReconcileCheck_push plain last⟩
  simp [StripeFulfillmentRecord.push]

theorem finalizeClaim_decides (now : ℕ) (finalStatus : StripeRouterStatus) {opts : FinalizeOpts}
    (plain : opts.detail.isLive = false) (record : StripeFulfillmentRecord) :
    ∃ next, finalizeClaim now finalStatus opts record = .set next () ∧
      next.ambiguousRetries = record.ambiguousRetries ∧
      (next.status = if record.status ≠ .paid then finalStatus else record.status) ∧
      ∀ check, lastReconcileCheck next = some check → lastReconcileCheck record = some check :=
  ⟨_, rfl, rfl, rfl, fun _ last => lastReconcileCheck_push plain last⟩

/-- The operation neither claims the record, nor gives it back, nor re-opens it. -/
def RecordOp.passive : RecordOp → Bool
  | .claim _ _ | .release _ _ _ _ _ | .finalize _ _ _ | .reopen _ _ => false
  | .load | .inspect _ _ | .seed _ _ | .stampCheck _ _ | .recordCheckError _ _ | .recordCheck _ _ | .resolve _ => true

def RecordOp.givesBack : RecordOp → Bool
  | .release _ _ _ _ _ | .finalize _ _ _ => true
  | _ => false

/-- A passive operation leaves the key alone or moves its record. -/
theorem RecordOp.passive_moves {op : RecordOp} (passive : op.passive = true) (invoiceKey : String)
    (current : Option StripeFulfillmentRecord) :
    (op.decide invoiceKey current).after current = current ∨
      ∃ next, (op.decide invoiceKey current).after current = some next ∧
        Moves (current.getD (emptyStripeRecord invoiceKey)) next ∧
        ∀ check, lastReconcileCheck next = some check →
          lastReconcileCheck (current.getD (emptyStripeRecord invoiceKey)) = some check ∨
            ∃ now, op = .recordCheck now check.live := by
  cases op with
  | claim | release | finalize | reopen => cases passive
  | load | inspect => exact .inl rfl
  | seed args now =>
    obtain ⟨next, decided, moves, check⟩ := seedStripeRecord_moves args now (current.getD (emptyStripeRecord invoiceKey))
    refine .inr ⟨next, ?_, moves, fun last same => .inl (check last same)⟩
    simp only [RecordOp.decide, updateStripeRecord, decided, Decision.after_set]
  | stampCheck now minInterval =>
    rcases stampProviderCheck_moves now minInterval (current.getD (emptyStripeRecord invoiceKey)) with
      decided | ⟨next, decided, moves, check⟩
    · left
      simp only [RecordOp.decide, updateStripeRecord, decided, Decision.after_noop]
    · refine .inr ⟨next, ?_, moves, fun last same => .inl (check ▸ same)⟩
      simp only [RecordOp.decide, updateStripeRecord, decided, Decision.after_set]
  | recordCheckError now error =>
    obtain ⟨next, escalated, decided, moves, check⟩ :=
      recordCheckError_moves now error (current.getD (emptyStripeRecord invoiceKey))
    refine .inr ⟨next, ?_, moves, fun last same => .inl (check last same)⟩
    simp only [RecordOp.decide, updateStripeRecord, decided, Decision.after_set]
  | recordCheck now live =>
    obtain ⟨next, decided, moves, check⟩ := recordCheck_moves now live (current.getD (emptyStripeRecord invoiceKey))
    refine .inr ⟨next, ?_, moves, fun last same => ?_⟩
    · simp only [RecordOp.decide, updateStripeRecord, decided, Decision.after_set]
    · rcases check last same with earlier | shown
      · exact .inl earlier
      · exact .inr ⟨now, by rw [shown]⟩
  | resolve args =>
    rcases resolveManualReview_moves args (current.getD (emptyStripeRecord invoiceKey)) with
      ⟨outcome, decided⟩ | ⟨next, outcome, decided, moves, check⟩
    · left
      simp only [RecordOp.decide, updateStripeRecord, decided, Decision.after_noop]
    · refine .inr ⟨next, ?_, moves, fun last same => .inl (check last same)⟩
      simp only [RecordOp.decide, updateStripeRecord, decided, Decision.after_set]

theorem History.after_passive {op : RecordOp} (passive : op.passive = true) (history : History) (tid : ℕ)
    (invoiceKey : String) (answer : op.Answer) : history.after tid invoiceKey op answer = history := by
  cases op with
  | claim | release | finalize | reopen => cases passive
  | _ => rfl

/-! ## Operations on the world -/

namespace World

/-- The stored record, or the empty one an operation starts from. -/
def recordOf (world : World) (invoiceKey : String) : StripeFulfillmentRecord :=
  (world.records invoiceKey).getD (emptyStripeRecord invoiceKey)

def store (world : World) (invoiceKey : String) (record : StripeFulfillmentRecord) : World :=
  { world with records := update world.records invoiceKey (some record) }

variable {world : World} {invoiceKey : String} {record : StripeFulfillmentRecord}

@[simp] theorem store_self : (world.store invoiceKey record).records invoiceKey = some record := by simp [store]

theorem store_ne {other : String} (distinct : other ≠ invoiceKey) :
    (world.store invoiceKey record).records other = world.records other := by simp [store, distinct]

theorem recordOf_eq (stored : world.records invoiceKey = some record) : world.recordOf invoiceKey = record := by
  simp [recordOf, stored]

end World

section Perform

variable {tid : ℕ} {invoiceKey : String} (world : World)

/-- What an operation does, once its decision is known. -/
theorem RecordOp.perform_of_set {op : RecordOp} {next : StripeFulfillmentRecord} {result : op.Answer}
    (decided : op.decide invoiceKey (world.records invoiceKey) = .set next result) :
    op.perform tid invoiceKey world =
      (result, { world.store invoiceKey next with history := world.history.after tid invoiceKey op result }) := by
  simp only [RecordOp.perform, decided, Decision.result, Decision.after_set, World.store]

theorem RecordOp.perform_of_noop {op : RecordOp} {result : op.Answer}
    (decided : op.decide invoiceKey (world.records invoiceKey) = .noop result) :
    op.perform tid invoiceKey world =
      (result, { world with history := world.history.after tid invoiceKey op result }) := by
  simp only [RecordOp.perform, decided, Decision.result, Decision.after_noop, update_eq_self]

theorem RecordOp.passive_perform {op : RecordOp} (passive : op.passive = true) :
    (op.perform tid invoiceKey world).2 = world ∨
      ∃ next, (op.perform tid invoiceKey world).2 = world.store invoiceKey next ∧
        Moves (world.recordOf invoiceKey) next ∧
        ∀ check, lastReconcileCheck next = some check →
          lastReconcileCheck (world.recordOf invoiceKey) = some check ∨ ∃ now, op = .recordCheck now check.live := by
  have history : ∀ answer, world.history.after tid invoiceKey op answer = world.history :=
    History.after_passive passive _ _ _
  rcases op.passive_moves passive invoiceKey (world.records invoiceKey) with kept | ⟨next, set_, moves, check⟩
  · left
    simp only [RecordOp.perform, kept, history, update_eq_self]
  · exact .inr ⟨next, by simp only [RecordOp.perform, set_, history, World.store], moves, check⟩

theorem RecordOp.claim_perform (input : StripeWebhookInput) (now : ℕ) :
    ∃ next, next.ambiguousRetries = (world.recordOf invoiceKey).ambiguousRetries ∧
      (∀ check, lastReconcileCheck next = some check → lastReconcileCheck (world.recordOf invoiceKey) = some check) ∧
      ((∃ invoiceAtomic, 0 < invoiceAtomic ∧ (world.recordOf invoiceKey).status.claimable = true ∧
          next.status = .providerPaying ∧
          (RecordOp.claim input now).perform tid invoiceKey world = (.claimed invoiceAtomic,
            { world.store invoiceKey next with
              history := world.history.start { tid, invoiceKey, amount := invoiceAtomic, day := now / dayMs } })) ∨
        ∃ claim, (∀ invoiceAtomic, claim ≠ .claimed invoiceAtomic) ∧
          (next.status = (world.recordOf invoiceKey).status ∨
            (world.recordOf invoiceKey).status.claimable = true ∧ next.status = .payinSeen ∨
            (world.recordOf invoiceKey).status.claimable = true ∧ next.status = .manualReview) ∧
          (RecordOp.claim input now).perform tid invoiceKey world = (claim, world.store invoiceKey next)) := by
  obtain ⟨next, claim, decided, retries, check, outcome⟩ :=
    claimStripeRecord_cases input now (world.recordOf invoiceKey)
  have performed := @RecordOp.perform_of_set tid invoiceKey world (.claim input now) _ _ decided
  refine ⟨next, retries, check, ?_⟩
  rcases outcome with ⟨invoiceAtomic, rfl, positive, claimable, paying⟩ | ⟨unclaimed, status⟩
  · exact .inl ⟨invoiceAtomic, positive, claimable, paying, performed⟩
  · refine .inr ⟨claim, unclaimed, status, performed.trans ?_⟩
    cases claim with
    | claimed invoiceAtomic => exact absurd rfl (unclaimed invoiceAtomic)
    | _ => rfl

theorem RecordOp.reopen_perform (now : ℕ) (plan : RetryPlan) :
    (RecordOp.reopen now plan).perform tid invoiceKey world = (false, world) ∨
      ∃ record next, world.records invoiceKey = some record ∧ record.status = .providerSubmittedAmbiguous ∧
        record.ambiguousRetries = plan.attempts ∧ next.status = .payoutSeen ∧
        next.ambiguousRetries = plan.attempts + 1 ∧
        (∀ check, lastReconcileCheck next = some check → lastReconcileCheck record = some check) ∧
        (RecordOp.reopen now plan).perform tid invoiceKey world = (true,
          { world.store invoiceKey next with history := world.history.reopen tid invoiceKey }) := by
  rcases reopenAmbiguous_cases now plan (world.recordOf invoiceKey) with
    refused | ⟨next, reopened, ambiguous, attempts, status, retries, check⟩
  · exact .inl (RecordOp.perform_of_noop world (show (RecordOp.reopen now plan).decide invoiceKey
      (world.records invoiceKey) = _ from refused))
  · have performed := @RecordOp.perform_of_set tid invoiceKey world (.reopen now plan) _ _ reopened
    cases stored : world.records invoiceKey with
    | none =>
      have fresh : world.recordOf invoiceKey = emptyStripeRecord invoiceKey := by simp [World.recordOf, stored]
      rw [fresh] at ambiguous
      cases ambiguous
    | some record =>
      rw [World.recordOf_eq stored] at ambiguous attempts check
      exact .inr ⟨record, next, rfl, ambiguous, attempts, status, retries, check, performed⟩

theorem RecordOp.release_perform (now : ℕ) (releaseTo : StripeRouterStatus) (balance : Option ℤ) (kind : String)
    {detail : EventDetail} (plain : detail.isLive = false) :
    ∃ next, next.ambiguousRetries = (world.recordOf invoiceKey).ambiguousRetries ∧
      (next.status = if (world.recordOf invoiceKey).status = .providerPaying then releaseTo
        else (world.recordOf invoiceKey).status) ∧
      (∀ check, lastReconcileCheck next = some check → lastReconcileCheck (world.recordOf invoiceKey) = some check) ∧
      (RecordOp.release now releaseTo balance kind detail).perform tid invoiceKey world = ((),
        { world.store invoiceKey next with history := world.history.giveBack tid invoiceKey }) := by
  obtain ⟨next, decided, retries, status, check⟩ :=
    releaseClaim_decides now releaseTo balance kind plain (world.recordOf invoiceKey)
  exact ⟨next, retries, status, check, RecordOp.perform_of_set world decided⟩

theorem RecordOp.finalize_perform (now : ℕ) (finalStatus : StripeRouterStatus) {opts : FinalizeOpts}
    (plain : opts.detail.isLive = false) :
    ∃ next, next.ambiguousRetries = (world.recordOf invoiceKey).ambiguousRetries ∧
      (next.status = if (world.recordOf invoiceKey).status ≠ .paid then finalStatus
        else (world.recordOf invoiceKey).status) ∧
      (∀ check, lastReconcileCheck next = some check → lastReconcileCheck (world.recordOf invoiceKey) = some check) ∧
      (RecordOp.finalize now finalStatus opts).perform tid invoiceKey world = ((),
        { world.store invoiceKey next with
          history := if finalStatus = .providerSubmittedAmbiguous then
              (world.history.giveBack tid invoiceKey).endAmbiguous tid invoiceKey
            else world.history.giveBack tid invoiceKey }) := by
  obtain ⟨next, decided, retries, status, check⟩ :=
    finalizeClaim_decides now finalStatus plain (world.recordOf invoiceKey)
  exact ⟨next, retries, status, check, RecordOp.perform_of_set world decided⟩

end Perform

/-! ## Faults -/

/-- An operation that may throw either does nothing or takes effect, whatever it answers. -/
theorem fault_cases {A W : Type} {fault : Fault} {operation : W → A × W} {world after : W} {answer : Option A}
    (performed : fault.apply operation world = (answer, after)) :
    answer = none ∧ after = world ∨
      (answer = none ∨ answer = some (operation world).1) ∧ after = (operation world).2 := by
  cases fault <;> cases performed
  · exact .inr ⟨.inr rfl, rfl⟩
  · exact .inr ⟨.inl rfl, rfl⟩
  · exact .inl ⟨rfl, rfl⟩

/-! ## History -/

namespace History

variable {history : History} {id : Option ℕ} {change : Attempt → Attempt}

theorem lookup_modify (other : ℕ) : (history.modify id change).attempts.lookup other =
    if id = some other then (history.attempts.lookup other).map change else history.attempts.lookup other := by
  cases id with
  | none => simp [modify]
  | some id =>
    cases found : history.attempts.lookup id with
    | none =>
      by_cases same : id = other
      · subst same
        simp [modify, found]
      · simp [modify, found, same]
    | some attempt =>
      by_cases same : id = other
      · subst same
        simp [modify, found]
      · simp [modify, found, same, AList.lookup_insert_ne (Ne.symm same)]

@[simp] theorem modify_holder : (history.modify id change).holder = history.holder := by
  unfold modify
  split <;> [rfl; split <;> rfl]

@[simp] theorem modify_current : (history.modify id change).current = history.current := by
  unfold modify
  split <;> [rfl; split <;> rfl]

@[simp] theorem modify_started : (history.modify id change).started = history.started := by
  unfold modify
  split <;> [rfl; split <;> rfl]

@[simp] theorem modify_ambiguous : (history.modify id change).ambiguous = history.ambiguous := by
  unfold modify
  split <;> [rfl; split <;> rfl]

@[simp] theorem modify_reopened : (history.modify id change).reopened = history.reopened := by
  unfold modify
  split <;> [rfl; split <;> rfl]

@[simp] theorem modify_trace : (history.modify id change).trace = history.trace := by
  unfold modify
  split <;> [rfl; split <;> rfl]

variable {invoiceKey : String}

variable {tid : ℕ}

@[simp] theorem giveBack_attempts : (history.giveBack tid invoiceKey).attempts = history.attempts := by
  unfold giveBack
  split <;> rfl

@[simp] theorem giveBack_current : (history.giveBack tid invoiceKey).current = history.current := by
  unfold giveBack
  split <;> rfl

@[simp] theorem giveBack_started : (history.giveBack tid invoiceKey).started = history.started := by
  unfold giveBack
  split <;> rfl

@[simp] theorem giveBack_ambiguous : (history.giveBack tid invoiceKey).ambiguous = history.ambiguous := by
  unfold giveBack
  split <;> rfl

@[simp] theorem giveBack_reopened : (history.giveBack tid invoiceKey).reopened = history.reopened := by
  unfold giveBack
  split <;> rfl

@[simp] theorem giveBack_trace : (history.giveBack tid invoiceKey).trace = history.trace := by
  unfold giveBack
  split <;> rfl

theorem lookup_start (attempt : Attempt) (id : ℕ) : (history.start attempt).attempts.lookup id =
    if id = history.started then some attempt else history.attempts.lookup id := by
  split_ifs with new
  · subst new
    exact AList.lookup_insert _
  · exact AList.lookup_insert_ne new

theorem start_holder (attempt : Attempt) (invoiceKey : String) : (history.start attempt).holder invoiceKey =
    if invoiceKey = attempt.invoiceKey then some history.started else history.holder invoiceKey :=
  update_apply ..

theorem start_current (attempt : Attempt) (tid : ℕ) (invoiceKey : String) :
    (history.start attempt).current tid invoiceKey =
      if tid = attempt.tid ∧ invoiceKey = attempt.invoiceKey then some history.started
      else history.current tid invoiceKey := by
  by_cases mine : tid = attempt.tid
  · subst mine
    simp [start, update_apply]
  · simp [start, mine]

/-- Attempts are numbered in the order they start, and a request's current attempt is its own. -/
structure Numbered (history : History) : Prop where
  fresh : ∀ id, history.started ≤ id → history.attempts.lookup id = none
  current : ∀ tid invoiceKey id, history.current tid invoiceKey = some id →
    ∃ attempt, history.attempts.lookup id = some attempt ∧ attempt.tid = tid ∧ attempt.invoiceKey = invoiceKey

namespace Numbered

theorem lt (numbered : history.Numbered) {id : ℕ} {attempt : Attempt}
    (found : history.attempts.lookup id = some attempt) : id < history.started := by
  by_contra later
  have absent := numbered.fresh id (by omega)
  rw [absent] at found
  cases found

theorem start (numbered : history.Numbered) (attempt : Attempt) : (history.start attempt).Numbered where
  fresh := by
    intro id later
    have started : (history.start attempt).started = history.started + 1 := rfl
    rw [lookup_start, if_neg (by omega)]
    exact numbered.fresh id (by omega)
  current := by
    intro tid invoiceKey id mine
    rw [start_current] at mine
    rw [lookup_start]
    split_ifs at mine with own
    · cases mine
      rw [if_pos rfl]
      exact ⟨attempt, rfl, own.1.symm, own.2.symm⟩
    · obtain ⟨found, was, sameTid, sameKey⟩ := numbered.current _ _ _ mine
      have earlier := numbered.lt was
      rw [if_neg (by omega)]
      exact ⟨found, was, sameTid, sameKey⟩

/-- Attempts may change in anything but their owner. -/
theorem congr {after : History} (numbered : history.Numbered) (current : after.current = history.current)
    (started : after.started = history.started)
    (attempts : ∀ id, (after.attempts.lookup id).map (fun attempt => (attempt.tid, attempt.invoiceKey)) =
      (history.attempts.lookup id).map fun attempt => (attempt.tid, attempt.invoiceKey)) : after.Numbered where
  fresh := by
    intro id later
    have same := attempts id
    rw [numbered.fresh id (started ▸ later)] at same
    exact Option.map_eq_none_iff.mp same
  current := by
    intro tid invoiceKey id mine
    rw [current] at mine
    obtain ⟨found, was, sameTid, sameKey⟩ := numbered.current _ _ _ mine
    have same := attempts id
    rw [was, Option.map_some] at same
    obtain ⟨attempt, now, owner⟩ := Option.map_eq_some_iff.mp same
    simp only [Prod.mk.injEq] at owner
    exact ⟨attempt, now, owner.1.trans sameTid, owner.2.trans sameKey⟩

end Numbered

end History

/-! ## Calls -/

/-- A call about an invoice moves its current attempt on, and nothing else but the trace. -/
def Calls (tid : ℕ) (invoiceKey : String) (call : CallState) (world after : World) : Prop :=
  after.records = world.records ∧ after.guards = world.guards ∧ ∃ trace, after.history =
    { world.history.modify (world.history.current tid invoiceKey) fun attempt => { attempt with call } with trace }

section Calls

variable {tid : ℕ} {invoiceKey : String} {choice : Choice} {world after : World}

theorem send_calls {args : PayInvoiceArgs} {answer : Unit}
    (performed : perform tid (.send invoiceKey args) choice world = some (answer, after)) :
    Calls tid invoiceKey .outstanding world after := by
  cases performed
  exact ⟨rfl, rfl, _, rfl⟩

theorem receive_calls {answer : PayInvoiceReply}
    (performed : perform tid (.receive invoiceKey) choice world = some (answer, after)) :
    Calls tid invoiceKey (.received (payInvoiceResult answer)) world after := by
  cases performed
  exact ⟨rfl, rfl, world.history.trace, by rw [← @History.modify_trace world.history]⟩

end Calls

end MppRouter.Routes.Stripe
