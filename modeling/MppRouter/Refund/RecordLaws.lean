import MppRouter.Refund.Signer

/-! # What a refund record goes through

Every update of a refund record is one of five operations, decided on the stored value. Whatever their
order and their arguments, a record keeps its identity, moves to `submitted` and `confirmed` only by
the recorded lease, and is not touched again once it is confirmed.
-/

namespace MppRouter.Refund

open Concurrent Machine Mpp Decision

inductive RefundOp where
  | enqueue (refundId publicId : String) (createdAt : ℕ) (input : EnqueueInput)
  | lease (leaseId : String) (now : ℕ)
  | complete (leaseId : String) (update : CompleteUpdate) (now : ℕ)
  | unpark (reason : Option String) (now : ℕ)
  | requeue (leaseId : String) (expectedTx : TxHash)
  deriving DecidableEq

/-- What an operation leaves in the store. -/
def RefundOp.perform (op : RefundOp) (current : Option RefundRecord) : Option RefundRecord :=
  match op with
  | .enqueue refundId publicId createdAt input =>
    match enqueueRefund refundId publicId createdAt input current with
    | .error _ => current
    | .ok decision => decision.after current
  | .lease leaseId now => (leaseRefund leaseId now current).after current
  | .complete leaseId update now => (completeRefund leaseId update now current).after current
  | .unpark reason now => (unparkRefund reason now current).after current
  | .requeue leaseId expectedTx => (requeueMalformedRefund leaseId expectedTx current).after current

def runOps (ops : List RefundOp) (current : Option RefundRecord) : Option RefundRecord :=
  ops.foldl (fun current op => op.perform current) current

@[simp] theorem runOps_nil (current : Option RefundRecord) : runOps [] current = current := rfl

@[simp] theorem runOps_cons (op : RefundOp) (rest : List RefundOp) (current : Option RefundRecord) :
    runOps (op :: rest) current = runOps rest (op.perform current) := rfl

/-! ## One operation -/

def RefundRecord.leaseId (record : RefundRecord) : Option String := record.lease.map Lease.id

/-- The record goes back to pending, without its lease and its envelope. -/
def RefundRecord.requeued (record : RefundRecord) (events : List RefundAuditEvent) : RefundRecord :=
  { record with refundTx := none, signedXdr := none, lease := none, state := .pending, events }

/-- The record a completion leaves. -/
def RefundRecord.completed (record : RefundRecord) (update : CompleteUpdate) (now : ℕ) : RefundRecord :=
  { record with
    state := update.state.state
    refundTx := some update.refundTx
    signedXdr := update.signedXdr.or record.signedXdr
    confirmedLedger := update.confirmedLedger.or record.confirmedLedger
    confirmedAt := if update.state = .confirmed then some now else record.confirmedAt }

/-- Every change of a stored record, with what it found. -/
inductive Changes (record : RefundRecord) : RefundOp → RefundRecord → Prop where
  | leased {leaseId : String} {now : ℕ}
      (free : record.state = .pending ∨
        record.state = .leased ∧ ∀ lease, record.lease = some lease → lease.until_ ≤ now) :
      Changes record (.lease leaseId now) { record with state := .leased, lease := some ⟨leaseId, now + 60000⟩ }
  | completed {leaseId : String} {update : CompleteUpdate} {now : ℕ} (held : record.leaseId = some leaseId)
      (open_ : record.state ≠ .confirmed) (submits : update.state = .submitted → record.state = .leased)
      (confirms : update.state = .confirmed ↔ record.state = .submitted) :
      Changes record (.complete leaseId update now) (record.completed update now)
  | reviewed {leaseId : String} {update : CompleteUpdate} {now : ℕ} (held : record.leaseId = some leaseId)
      (submitted : record.state = .submitted) :
      Changes record (.complete leaseId update now) { record with state := .manualReview }
  | unparked {reason : Option String} {now : ℕ} (events : List RefundAuditEvent)
      (review : record.state = .manualReview) : Changes record (.unpark reason now) (record.requeued events)
  | requeued {leaseId : String} {expectedTx : TxHash} (submitted : record.state = .submitted) :
      Changes record (.requeue leaseId expectedTx) (record.requeued record.events)

theorem leaseRefund_changes (leaseId : String) (now : ℕ) (record : RefundRecord) :
    leaseRefund leaseId now (some record) = .noop none ∨
      ∃ leased, leaseRefund leaseId now (some record) = .set leased (some leased) ∧
        Changes record (.lease leaseId now) leased := by
  unfold leaseRefund
  dsimp only
  split_ifs with active settled
  · exact .inl rfl
  · exact .inl rfl
  · refine .inr ⟨_, rfl, .leased ?_⟩
    by_cases pending : record.state = .pending
    · exact .inl pending
    · have leased : record.state = .leased := by
        by_contra other
        exact settled ⟨pending, other⟩
      refine .inr ⟨leased, fun lease recorded => ?_⟩
      by_contra running
      exact active ⟨pending, leased, by simp [recorded]; omega⟩

theorem completeRefund_changes (leaseId : String) (update : CompleteUpdate) (now : ℕ) (record : RefundRecord) :
    (∃ answer, completeRefund leaseId update now (some record) = .noop answer) ∨
      ∃ next, completeRefund leaseId update now (some record) = .set next (some next) ∧
        Changes record (.complete leaseId update now) next := by
  unfold completeRefund
  dsimp only
  split
  next => exact .inl ⟨_, rfl⟩
  next open_ =>
    split
    next => exact .inl ⟨_, rfl⟩
    next held =>
      split
      next submitted =>
        split
        next => exact .inl ⟨_, rfl⟩
        next =>
          split
          next => exact .inl ⟨_, rfl⟩
          next => exact .inr ⟨_, rfl, .reviewed (not_not.mp held) submitted.1⟩
      next unsubmitted =>
        split
        next => exact .inl ⟨_, rfl⟩
        next confirmable =>
          split
          next => exact .inl ⟨_, rfl⟩
          next submittable =>
            refine .inr ⟨_, rfl, .completed (not_not.mp held) open_ ?_ ⟨?_, ?_⟩⟩
            · intro submits
              by_contra unleased
              exact submittable ⟨submits, .inr unleased⟩
            · intro confirms
              by_contra other
              exact confirmable ⟨confirms, other⟩
            · intro submitted
              by_contra other
              exact unsubmitted ⟨submitted, other⟩

theorem unparkRefund_changes (reason : Option String) (now : ℕ) (record : RefundRecord) :
    (∃ outcome, unparkRefund reason now (some record) = .noop outcome) ∨
      ∃ unparked outcome, unparkRefund reason now (some record) = .set unparked outcome ∧
        Changes record (.unpark reason now) unparked := by
  unfold unparkRefund
  dsimp only
  split_ifs with pending review
  · exact .inl ⟨_, rfl⟩
  · exact .inl ⟨_, rfl⟩
  · exact .inr ⟨_, _, rfl, .unparked _ (not_not.mp review)⟩

theorem requeueMalformedRefund_changes (leaseId : String) (expectedTx : TxHash) (record : RefundRecord) :
    requeueMalformedRefund leaseId expectedTx (some record) = .noop none ∨
      ∃ pending, requeueMalformedRefund leaseId expectedTx (some record) = .set pending (some pending) ∧
        Changes record (.requeue leaseId expectedTx) pending := by
  unfold requeueMalformedRefund
  dsimp only
  split_ifs with refused different
  · exact .inl rfl
  · exact .inl rfl
  · obtain ⟨submitted, _⟩ := not_or.mp refused
    exact .inr ⟨_, rfl, .requeued (not_not.mp submitted)⟩

/-- An operation leaves a stored record alone, or changes it in one of the ways above. -/
theorem RefundOp.perform_some (op : RefundOp) (record : RefundRecord) :
    op.perform (some record) = some record ∨ ∃ after, op.perform (some record) = some after ∧ Changes record op after := by
  cases op with
  | enqueue refundId publicId createdAt input =>
    left
    simp only [perform, enqueueRefund]
    split_ifs <;> rfl
  | lease leaseId now =>
    rcases leaseRefund_changes leaseId now record with refused | ⟨leased, granted, changes⟩
    · exact .inl (by simp only [perform, refused, after_noop])
    · exact .inr ⟨leased, by simp only [perform, granted, after_set], changes⟩
  | complete leaseId update now =>
    rcases completeRefund_changes leaseId update now record with ⟨answer, refused⟩ | ⟨next, completed, changes⟩
    · exact .inl (by simp only [perform, refused, after_noop])
    · exact .inr ⟨next, by simp only [perform, completed, after_set], changes⟩
  | unpark reason now =>
    rcases unparkRefund_changes reason now record with ⟨outcome, refused⟩ | ⟨unparked, outcome, done, changes⟩
    · exact .inl (by simp only [perform, refused, after_noop])
    · exact .inr ⟨unparked, by simp only [perform, done, after_set], changes⟩
  | requeue leaseId expectedTx =>
    rcases requeueMalformedRefund_changes leaseId expectedTx record with refused | ⟨pending, requeued, changes⟩
    · exact .inl (by simp only [perform, refused, after_noop])
    · exact .inr ⟨pending, by simp only [perform, requeued, after_set], changes⟩

/-! ## Steps of a record -/

/-- A record that exists stays, and each of its changes was one of the above. -/
theorem RefundOp.perform_exists (op : RefundOp) (record : RefundRecord) :
    ∃ after, op.perform (some record) = some after ∧ (after = record ∨ Changes record op after) := by
  rcases op.perform_some record with same | ⟨after, became, changes⟩
  · exact ⟨record, same, .inl rfl⟩
  · exact ⟨after, became, .inr changes⟩

/-- What identifies a refund, and what it pays back. -/
structure SameRefund (before after : RefundRecord) : Prop where
  refundId : after.refundId = before.refundId
  publicId : after.publicId = before.publicId
  payment : after.payment = before.payment
  reason : after.reason = before.reason
  createdAt : after.createdAt = before.createdAt
  refundAmountAtomic : after.refundAmountAtomic = before.refundAmountAtomic

theorem SameRefund.refl (record : RefundRecord) : SameRefund record record := ⟨rfl, rfl, rfl, rfl, rfl, rfl⟩

theorem SameRefund.trans {first second third : RefundRecord} (one : SameRefund first second)
    (two : SameRefund second third) : SameRefund first third where
  refundId := two.refundId.trans one.refundId
  publicId := two.publicId.trans one.publicId
  payment := two.payment.trans one.payment
  reason := two.reason.trans one.reason
  createdAt := two.createdAt.trans one.createdAt
  refundAmountAtomic := two.refundAmountAtomic.trans one.refundAmountAtomic

namespace Changes

variable {record after : RefundRecord} {op : RefundOp}

section Changed

variable (changes : Changes record op after)

include changes

theorem sameRefund : SameRefund record after := by
  cases changes <;> exact ⟨rfl, rfl, rfl, rfl, rfl, rfl⟩

theorem open_before : record.state ≠ .confirmed := by
  intro confirmed
  cases changes with
  | leased free =>
    rcases free with pending | ⟨leased, _⟩
    · rw [confirmed] at pending
      cases pending
    · rw [confirmed] at leased
      cases leased
  | completed held open_ submits confirms => exact open_ confirmed
  | reviewed held submitted =>
    rw [confirmed] at submitted
    cases submitted
  | unparked events review =>
    rw [confirmed] at review
    cases review
  | requeued submitted =>
    rw [confirmed] at submitted
    cases submitted

theorem submitted_by (entered : after.state = .submitted) :
    record.state = .leased ∧ ∃ leaseId update now, op = .complete leaseId update now ∧
      update.state = .submitted ∧ record.leaseId = some leaseId := by
  cases changes with
  | leased | reviewed | unparked | requeued => cases entered
  | @completed leaseId update now held open_ submits confirms =>
    have submitted : update.state = .submitted := by
      cases shape : update.state with
      | submitted => rfl
      | confirmed | manualReview =>
        simp only [RefundRecord.completed, shape, Completion.state] at entered
        cases entered
    exact ⟨submits submitted, leaseId, update, now, rfl, submitted, held⟩

theorem confirmed_by (entered : after.state = .confirmed) :
    record.state = .submitted ∧ ∃ leaseId update now, op = .complete leaseId update now ∧
      update.state = .confirmed ∧ record.leaseId = some leaseId := by
  cases changes with
  | leased | reviewed | unparked | requeued => cases entered
  | @completed leaseId update now held open_ submits confirms =>
    have confirmed : update.state = .confirmed := by
      cases shape : update.state with
      | confirmed => rfl
      | submitted | manualReview =>
        simp only [RefundRecord.completed, shape, Completion.state] at entered
        cases entered
    exact ⟨confirms.mp confirmed, leaseId, update, now, rfl, confirmed, held⟩

theorem leaves_submitted (submitted : record.state = .submitted) : after.state ≠ .submitted := by
  intro still
  obtain ⟨leased, _⟩ := changes.submitted_by still
  rw [submitted] at leased
  cases leased

end Changed

/-- A completion by anyone but the recorded lease changes nothing. -/
theorem held {leaseId : String} {update : CompleteUpdate} {now : ℕ}
    (changes : Changes record (.complete leaseId update now) after) : record.leaseId = some leaseId := by
  cases changes with
  | completed held open_ submits confirms => exact held
  | reviewed held submitted => exact held

end Changes

/-- A leased record carries its lease. -/
def Leased (record : RefundRecord) : Prop := record.state = .leased → ∃ lease, record.lease = some lease

/-- The fields of a record fit its state. -/
structure Formed (record : RefundRecord) : Prop where
  leased : record.lease = none ↔ record.state = .pending
  sent : record.refundTx = none ↔ record.state = .pending ∨ record.state = .leased
  signed : record.refundTx = none → record.signedXdr = none
  confirmed : record.confirmedAt = none ↔ record.state ≠ .confirmed

theorem Changes.formed {record after : RefundRecord} {op : RefundOp} (changes : Changes record op after)
    (formed : Formed record) : Formed after := by
  have unconfirmed : record.confirmedAt = none := formed.confirmed.mpr changes.open_before
  have lease {leaseId : String} (held : record.leaseId = some leaseId) : record.lease ≠ none := by
    intro none
    simp [RefundRecord.leaseId, none] at held
  cases changes with
  | leased free =>
    have unsent : record.refundTx = none := formed.sent.mpr (free.imp_right And.left)
    exact ⟨by simp, by simp [unsent], formed.signed, by simp [unconfirmed]⟩
  | @completed leaseId update now held =>
    constructor <;> cases shape : update.state <;>
      simp [RefundRecord.completed, shape, Completion.state, lease held, unconfirmed]
  | reviewed held submitted =>
    have sent : record.refundTx ≠ none := fun none => by simpa [submitted] using formed.sent.mp none
    exact ⟨by simp [lease held], by simp [sent], formed.signed, by simp [unconfirmed]⟩
  | unparked | requeued => constructor <;> simp [RefundRecord.requeued, unconfirmed]

theorem RefundOp.perform_formed (op : RefundOp) {current : Option RefundRecord}
    (formed : ∀ record, current = some record → Formed record) :
    ∀ record, op.perform current = some record → Formed record := by
  cases current with
  | none =>
    intro record created
    cases op with
    | enqueue refundId publicId createdAt input =>
      simp only [perform, enqueueRefund] at created
      split_ifs at created
      cases created
      exact ⟨by simp, by simp, fun _ => rfl, by simp⟩
    | lease | complete | unpark | requeue => cases created
  | some before =>
    obtain ⟨after, became, same | changes⟩ := op.perform_exists before
    · rw [became, same]
      exact formed
    · rw [became]
      rintro _ ⟨⟩
      exact changes.formed (formed before rfl)

/-! ## Runs -/

section Runs

/-- The rule of runs: what every change keeps holds of the record as long as it exists. -/
theorem runOps_keeps {record : RefundRecord} {property : RefundRecord → Prop}
    (keeps : ∀ before op after, property before → Changes before op after → property after) (holds : property record)
    (later : List RefundOp) : ∃ after, runOps later (some record) = some after ∧ property after := by
  induction later generalizing record with
  | nil => exact ⟨record, rfl, holds⟩
  | cons op rest ih =>
    obtain ⟨after, became, same | changes⟩ := op.perform_exists record
    · rw [runOps_cons, became, same]
      exact ih holds
    · rw [runOps_cons, became]
      exact ih (keeps _ _ _ holds changes)

theorem runOps_formed (ops : List RefundOp) {current : Option RefundRecord}
    (formed : ∀ record, current = some record → Formed record) :
    ∀ record, runOps ops current = some record → Formed record := by
  induction ops generalizing current with
  | nil => exact formed
  | cons op rest ih => exact ih (op.perform_formed formed)

theorem runOps_leased {record : RefundRecord} (ops : List RefundOp) (reached : runOps ops none = some record) : Leased record := by
  intro leased
  have formed : Formed record := runOps_formed ops (by rintro _ ⟨⟩) record reached
  exact Option.ne_none_iff_exists'.mp fun none => by simp [formed.leased.mp none] at leased

/-- The laws of a record that some run of operations leads to. -/
structure Lawful (record : RefundRecord) : Prop where
  confirmed_final : record.state = .confirmed → ∀ later, runOps later (some record) = some record
  identity : ∀ later, ∃ after, runOps later (some record) = some after ∧ SameRefund record after
  submitted_by : ∀ (op : RefundOp) (after : RefundRecord), op.perform (some record) = some after → record.state ≠ .submitted →
    after.state = .submitted → record.state = .leased ∧ ∃ leaseId update now,
      op = .complete leaseId update now ∧ update.state = .submitted ∧ record.leaseId = some leaseId
  confirmed_by : ∀ (op : RefundOp) (after : RefundRecord), op.perform (some record) = some after → record.state ≠ .confirmed →
    after.state = .confirmed → record.state = .submitted ∧ ∃ leaseId update now,
      op = .complete leaseId update now ∧ update.state = .confirmed ∧ record.leaseId = some leaseId
  lease_granted : ∀ leaseId now granted, (leaseRefund leaseId now (some record)).result = some granted →
    record.state = .pending ∨ record.state = .leased ∧ ∃ lease, record.lease = some lease ∧ lease.until_ ≤ now
  submitted_fixed : record.state = .submitted → ∀ later,
    (∀ sofar, sofar <+: later → ∃ middle, runOps sofar (some record) = some middle ∧ middle.state = .submitted) →
    ∃ after, runOps later (some record) = some after ∧ after.refundTx = record.refundTx ∧
      after.signedXdr = record.signedXdr ∧ after.leaseId = record.leaseId
  superseded : ∀ leaseId update now, record.leaseId ≠ some leaseId →
    (RefundOp.complete leaseId update now).perform (some record) = some record

variable {record : RefundRecord}

theorem confirmed_stays (confirmed : record.state = .confirmed) (later : List RefundOp) :
    runOps later (some record) = some record := by
  have keeps : ∀ before op after, before = record → Changes before op after → after = record := by
    rintro before op after rfl changes
    exact absurd confirmed changes.open_before
  obtain ⟨after, became, same⟩ := runOps_keeps keeps rfl later
  rw [became, same]

/-- A record that is seen submitted all the time is the same all the time. -/
theorem submitted_stays (later : List RefundOp)
    (submitted : ∀ sofar, sofar <+: later →
      ∃ middle, runOps sofar (some record) = some middle ∧ middle.state = .submitted) :
    runOps later (some record) = some record := by
  induction later with
  | nil => rfl
  | cons op rest ih =>
    obtain ⟨first, now, wasSubmitted⟩ := submitted [] (List.nil_prefix)
    cases now
    obtain ⟨after, became, same | changes⟩ := op.perform_exists record
    · rw [runOps_cons, became, same]
      refine ih fun sofar isPrefix => ?_
      obtain ⟨middle, reached, stillSubmitted⟩ := submitted (op :: sofar) (List.cons_prefix_cons.mpr ⟨rfl, isPrefix⟩)
      rw [runOps_cons, became, same] at reached
      exact ⟨middle, reached, stillSubmitted⟩
    · obtain ⟨middle, reached, stillSubmitted⟩ :=
        submitted [op] (List.cons_prefix_cons.mpr ⟨rfl, List.nil_prefix⟩)
      rw [runOps_cons, became] at reached
      cases reached
      exact absurd stillSubmitted (changes.leaves_submitted wasSubmitted)

theorem lease_found (leased : Leased record) {leaseId : String} {now : ℕ} {granted : RefundRecord}
    (answered : (leaseRefund leaseId now (some record)).result = some granted) :
    record.state = .pending ∨ record.state = .leased ∧ ∃ lease, record.lease = some lease ∧ lease.until_ ≤ now := by
  rcases leaseRefund_changes leaseId now record with refused | ⟨next, granted_, changes⟩
  · rw [refused] at answered
    cases answered
  · cases changes with
    | leased free =>
      rcases free with pending | ⟨isLeased, expired⟩
      · exact .inl pending
      · obtain ⟨lease, recorded⟩ := leased isLeased
        exact .inr ⟨isLeased, lease, recorded, expired lease recorded⟩

/-- Whatever order the operations on a payment's refund come in, its record keeps the laws. -/
theorem refund_record_lawful (earlier : List RefundOp) (reached : runOps earlier none = some record) :
    Lawful record where
  confirmed_final := confirmed_stays
  identity := runOps_keeps (fun _ _ _ same changes => same.trans changes.sameRefund) (SameRefund.refl record)
  submitted_by := by
    intro op after became unsubmitted entered
    rcases op.perform_some record with same | ⟨next, changed, changes⟩
    · rw [same] at became
      cases became
      exact absurd entered unsubmitted
    · rw [changed] at became
      cases became
      exact changes.submitted_by entered
  confirmed_by := by
    intro op after became unconfirmed entered
    rcases op.perform_some record with same | ⟨next, changed, changes⟩
    · rw [same] at became
      cases became
      exact absurd entered unconfirmed
    · rw [changed] at became
      cases became
      exact changes.confirmed_by entered
  lease_granted := fun _ _ _ => lease_found (runOps_leased earlier reached)
  submitted_fixed := fun _ later submitted => ⟨record, submitted_stays later submitted, rfl, rfl, rfl⟩
  superseded := by
    intro leaseId update now other
    rcases (RefundOp.complete leaseId update now).perform_some record with same | ⟨next, _, changes⟩
    · exact same
    · exact absurd changes.held other

/-- A payment's refund, leased and handed in. -/
def handedIn : List RefundOp :=
  [.enqueue "refund" "public" 0 timedOut, .lease "a" 1000,
    .complete "a" { state := .submitted, refundTx := ⟨firstEnvelope⟩, signedXdr := some firstEnvelope } 2000]

theorem refund_record_lawful_submitted : ∃ record, runOps handedIn none = some record ∧
    record.state = .submitted ∧ Lawful record :=
  ⟨_, rfl, rfl, refund_record_lawful handedIn rfl⟩

end Runs

/-! ## The record in the signer's runs -/

theorem perform_record {action : Action} {choice : Choice} {world after : World} {answer : action.Answer}
    (performed : perform action choice world = some (answer, after)) :
    ∃ ops, after.record = runOps ops world.record := by
  cases action with
  | enqueue refundId publicId input =>
    cases choice with
    | clock now =>
      simp only [perform] at performed
      split at performed
      next failure decided =>
        cases performed
        exact ⟨[], rfl⟩
      next decision decided =>
        cases performed
        refine ⟨[.enqueue refundId publicId now input], ?_⟩
        simp only [runOps_cons, runOps_nil, RefundOp.perform, decided]
    | _ => cases performed
  | lease leaseId =>
    cases choice with
    | clock now =>
      cases performed
      exact ⟨[.lease leaseId now], rfl⟩
    | _ => cases performed
  | complete leaseId update =>
    cases choice with
    | clock now =>
      cases performed
      exact ⟨[.complete leaseId update now], rfl⟩
    | _ => cases performed
  | requeue leaseId expectedTx =>
    cases choice with
    | plain =>
      cases performed
      exact ⟨[.requeue leaseId expectedTx], rfl⟩
    | _ => cases performed
  | unpark reason =>
    cases choice with
    | clock now =>
      cases performed
      exact ⟨[.unpark reason now], rfl⟩
    | _ => cases performed
  | getTransaction | closeLedger =>
    refine ⟨[], ?_⟩
    cases choice <;> simp only [perform, Option.ite_none_right_eq_some, reduceCtorEq] at performed
    obtain ⟨_, same⟩ := performed
    cases same
    rfl
  | pendingJob | randomUuid | buildSignedRefund | readRefund | send =>
    refine ⟨[], ?_⟩
    cases choice <;> cases performed
    rfl

/-- Whatever signers, operators and the network do in a run, the fields of the record fit its state. -/
theorem refund_runs_formed {config after : refundMachine.Config} (run : Run (unrestricted refundMachine) config after)
    (fresh : config.world.record = none) {record : RefundRecord} (found : after.world.record = some record) :
    Formed record := by
  induction run generalizing record with
  | refl =>
    rw [fresh] at found
    cases found
  | tail _ last ih =>
    cases last with
    | mk _ _ performed =>
      obtain ⟨ops, became⟩ := perform_record performed
      exact runOps_formed ops (fun _ => ih) record (became.symm.trans found)

/-- An enqueue, a signer run, and the network. -/
def refunding : ℕ → Signer Unit
  | 0 => (call (.enqueue "refund" "public" timedOut)).run
  | 1 => signerRun
  | _ => (call .closeLedger).run

theorem refund_runs_formed_confirmed : ∃ after : refundMachine.Config,
    Run (unrestricted refundMachine) ⟨.initial, refunding⟩ after ∧
      ∃ record, after.world.record = some record ∧ record.state = .confirmed ∧ Formed record := by
  obtain ⟨after, run, stored⟩ := Config.exec_reaches (unrestricted refundMachine) ⟨.initial, refunding⟩
    (landing 2 ++ [(1, .clock 0)]) (fun world => world.record.any fun record => record.state = .confirmed) rfl
  obtain ⟨record, found, confirmed⟩ := (Option.any_eq_true _ _).mp stored
  exact ⟨after, run, record, found, of_decide_eq_true confirmed, refund_runs_formed run rfl found⟩

end MppRouter.Refund
