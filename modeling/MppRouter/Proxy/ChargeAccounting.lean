import MppRouter.Proxy.MerchantLeg

/-! # What becomes of a settled charge

A charge has settled before the merchant is called. From there on the call must end with the merchant's
delivery, with a stored job, with a refund record, or with a mark for an operator.
-/

namespace MppRouter.Proxy

open Concurrent Machine Throwing Refund Routes List

/-! ## The accounts of a charge -/

namespace MeteredCall

variable (call : MeteredCall)

/-- The caller received what the merchant delivered, or a job that is stored. -/
def Served (result : Option Response) (after : World) : Prop :=
  ∃ response text, result = some response ∧ response.body = .merchant text ∧
    (response.status = 200 ∨ response.status = 202 ∧ ∃ jobId record, response.jobId = some jobId ∧
      (jobId, record) ∈ after.acceptedJobs ∧ record.paymentProof = call.settledPayment)

def Refunded (after : World) : Prop :=
  ∃ proof, call.settledPayment = some proof ∧ (after.refunds (refundIdForPaymentTx proof.paymentTx)).isSome = true

def Flagged (result : Option Response) : Prop :=
  ∃ response, result = some response ∧ response.refundStatus = some .manualReview

/-- Exactly one of the three. -/
def Accounted (result : Option Response) (after : World) : Prop :=
  (call.Served result after ∧ ¬ call.Refunded after ∧ ¬ Flagged result) ∨
    (¬ call.Served result after ∧ call.Refunded after ∧ ¬ Flagged result) ∨
    (¬ call.Served result after ∧ ¬ call.Refunded after ∧ Flagged result)

/-! ## Where the accounts go wrong -/

variable (weather : Weather proxyMachine) (tid : ℕ) (pick : Pick) (world : World)

/-- The refund record is written, and recording it throws all the same. -/
def RefundLost (input : EnqueueInput) : Prop :=
  positiveAtomic input.proof.amountAtomic = true ∧
    ((weather (.createRefund none input)).fault = .lost ∨
      (weather (.createRefund none input)).fault = .none ∧
        (weather (.publishRefund (weather (.createRefund none input)).publicId
          (refundIdForPaymentTx input.proof.paymentTx))).fault ≠ .none)

/-- The lookup of an earlier answer finds none. -/
def Misses : Prop :=
  ∀ key, call.idempotencyKey = some key → (weather (.getIdempotent key)).fault = .none ∧
    ((weather (.getIdempotent key)).cached.filter (· ≠ "")) = none

/-- The route's limit allows the call. -/
def Allowed : Prop :=
  call.Misses weather ∧ (call.route.rateLimit = true →
    (weather .bumpDailyLimit).fault = .none ∧ (weather .bumpDailyLimit).flag = false)

/-- What the merchant leg of an allowed call comes to; an exception counts as a failure. -/
def Replies (reply : MerchantPayResult) : Prop :=
  call.Allowed weather ∧ ∃ result paid,
    Ends weather tid (payMerchantAndGetBody pick none call.route call.quote) world result paid ∧
    reply = result.getD (.error .timeout 502 "Merchant delivery failed")

def input (reason : RefundReason) (proof : PaymentProof) : EnqueueInput :=
  { proof, reason, merchant := call.merchantHost, routeId := call.route.id, orderId := (weather .recordOrder).cached }

/-- The refunds that the call is to record. -/
inductive Owes : EnqueueInput → Prop
  | limited (proof : PaymentProof) (settled : call.settledPayment = some proof) (misses : call.Misses weather)
      (limit : call.route.rateLimit = true) (works : (weather .bumpDailyLimit).fault = .none)
      (used : (weather .bumpDailyLimit).flag = true) : Owes (call.input weather .nonFulfillment proof)
  | failed (proof : PaymentProof) (settled : call.settledPayment = some proof) (reason : RefundReason) (status : ℕ)
      (error : String) (replies : call.Replies weather tid pick world (.error reason status error)) :
      Owes (call.input weather reason proof)
  | jobless (proof : PaymentProof) (settled : call.settledPayment = some proof) (body : MerchantBody)
      (merchantStatus : ℕ) (replies : call.Replies weather tid pick world (.ok body merchantStatus))
      (async : isAsyncJobResponse merchantStatus body = (true, none)) : Owes (call.asyncCall.refundInput proof)
  | unstored (proof : PaymentProof) (settled : call.settledPayment = some proof) (body : MerchantBody)
      (merchantStatus : ℕ) (jobId account : String)
      (replies : call.Replies weather tid pick world (.ok body merchantStatus))
      (async : isAsyncJobResponse merchantStatus body = (true, some jobId))
      (bound : call.auth.extractStellarAddress = some account)
      (fault : (weather (.putJob jobId (call.asyncCall.jobRecord jobId account (weather .now).now))).fault ≠ .none) :
      Owes (call.asyncCall.refundInput proof)

/-- None of the four steps that lose track of a charge is taken. -/
structure Tracked : Prop where
  /-- The lookup of an earlier answer does not throw. -/
  lookup : call.settledPayment.isSome = true → ∀ key, call.idempotencyKey = some key →
    (weather (.getIdempotent key)).fault = .none
  /-- Nor does the limiter, where the call reaches it. -/
  limit : call.settledPayment.isSome = true → call.Misses weather → call.route.rateLimit = true →
    (weather .bumpDailyLimit).fault = .none
  /-- A refund that is to be recorded is recorded to the handler's knowledge, or not at all. -/
  refund : ∀ input, call.Owes weather tid pick world input → ¬ RefundLost weather input
  /-- A reply that is a job names its payer. -/
  bound : call.settledPayment.isSome = true → ∀ body merchantStatus jobId,
    call.Replies weather tid pick world (.ok body merchantStatus) →
    isAsyncJobResponse merchantStatus body = (true, some jobId) → call.auth.extractStellarAddress ≠ none
  /-- The id of a job that is stored can stand in a header. -/
  headed : call.settledPayment.isSome = true → ∀ body merchantStatus jobId account,
    call.Replies weather tid pick world (.ok body merchantStatus) →
    isAsyncJobResponse merchantStatus body = (true, some jobId) → call.auth.extractStellarAddress = some account →
    (weather (.putJob jobId (call.asyncCall.jobRecord jobId account (weather .now).now))).fault = .none →
    AsyncCall.isHeaderValue jobId = true

end MeteredCall

/-! ## Recording a refund -/

section Refunds

variable {weather : Weather proxyMachine} {tid : ℕ} {world after : World}

/-- The first enqueue of a refund creates its record. -/
theorem enqueueRefund_fresh (refundId publicId : String) (now : ℕ) (input : EnqueueInput)
    (positive : positiveAtomic input.proof.amountAtomic = true) : ∃ record : RefundRecord,
    Refund.enqueueRefund refundId publicId now input none = .ok (.set record record) ∧
      record.publicId = publicId ∧ record.refundId = refundId := by
  simp only [Refund.enqueueRefund, positive, not_true_eq_false, if_false]
  exact ⟨_, rfl, rfl, rfl⟩

theorem enqueueRefund_ends {input : EnqueueInput} {result : Option RefundRecord}
    (fresh : world.refunds (refundIdForPaymentTx input.proof.paymentTx) = none)
    (ended : Ends weather tid (enqueueRefund none input) world result after) :
    after.acceptedJobs = world.acceptedJobs ∧
      ((result.isSome = true ∧ (after.refunds (refundIdForPaymentTx input.proof.paymentTx)).isSome = true ∧
          ¬ MeteredCall.RefundLost weather input) ∨
        (result = none ∧ ((after.refunds (refundIdForPaymentTx input.proof.paymentTx)).isSome = true ↔
          MeteredCall.RefundLost weather input))) := by
  unfold MeteredCall.RefundLost
  set created := weather (.createRefund none input) with createdIs
  by_cases positive : positiveAtomic input.proof.amountAtomic = true
  · obtain ⟨record, decides, publicId, refundId⟩ := enqueueRefund_fresh
      (refundIdForPaymentTx input.proof.paymentTx) created.publicId created.now input positive
    have outcome : perform tid (.createRefund none input) created world = some (created.fault.apply (fun world =>
        world.createRefund (refundIdForPaymentTx input.proof.paymentTx) (.set record record)) world) := by
      simp only [perform, fresh, decides]
      rfl
    rcases Ends.bind ended with ⟨stored, middle, creates, rest⟩ | ⟨threw, rfl⟩
    · have step := (Ends.call creates).symm.trans outcome
      cases fault : created.fault <;> simp only [fault, Fault.apply] at step <;> cases step
      rcases Ends.bind rest with ⟨_, published, publishes, final⟩ | ⟨threw, rfl⟩
      · have publish := Ends.call publishes
        obtain ⟨rfl, rfl⟩ := Ends.pure final
        simp only [perform, Fault.answered] at publish
        split at publish
        · rename_i works
          cases publish
          replace works : (weather (.publishRefund created.publicId
              (refundIdForPaymentTx input.proof.paymentTx))).fault = .none := publicId ▸ refundId ▸ works
          refine ⟨rfl, .inl ⟨rfl, ?_, ?_⟩⟩
          · simp [World.createRefund]
          · simp [works]
        · cases publish
      · have publish := Ends.call threw
        simp only [perform, Fault.answered] at publish
        split at publish
        · cases publish
        · rename_i fails
          cases publish
          replace fails : (weather (.publishRefund created.publicId
              (refundIdForPaymentTx input.proof.paymentTx))).fault ≠ .none := publicId ▸ refundId ▸ fails
          refine ⟨rfl, .inr ⟨rfl, ?_⟩⟩
          simp [World.createRefund, positive, fails]
    · have step := (Ends.call threw).symm.trans outcome
      cases fault : created.fault <;> simp only [fault, Fault.apply] at step <;> cases step
      · refine ⟨rfl, .inr ⟨rfl, ?_⟩⟩
        simp [World.createRefund, positive]
      · refine ⟨rfl, .inr ⟨rfl, ?_⟩⟩
        simp [fresh]
  · have refused : perform tid (.createRefund none input) created world = some (none, world) := by
      simp only [perform, fresh, Refund.enqueueRefund, positive]
      rfl
    rcases Ends.bind ended with ⟨stored, middle, creates, rest⟩ | ⟨threw, rfl⟩
    · cases (Ends.call creates).symm.trans refused
    · cases (Ends.call threw).symm.trans refused
      refine ⟨rfl, .inr ⟨rfl, ?_⟩⟩
      simp [positive, fresh]

end Refunds

namespace MeteredCall

variable {call : MeteredCall} {weather : Weather proxyMachine} {tid : ℕ} {pick : Pick} {world after : World}

/-! ## The steps before the merchant is paid -/

theorem cachedAnswer_ends {result : Option (Option String)}
    (ended : Ends weather tid call.cachedAnswer world result after) : after = world ∧
      ((result = some none ∧ call.Misses weather) ∨
        ∃ key, call.idempotencyKey = some key ∧
          ((result = none ∧ (weather (.getIdempotent key)).fault ≠ .none) ∨
            (∃ cached, result = some (some cached) ∧ (weather (.getIdempotent key)).fault = .none ∧
              (weather (.getIdempotent key)).cached.filter (· ≠ "") = some cached))) := by
  unfold cachedAnswer at ended
  cases keyed : call.idempotencyKey with
  | none =>
    simp only [keyed] at ended
    obtain ⟨rfl, rfl⟩ := Ends.pure ended
    refine ⟨rfl, .inl ⟨rfl, ?_⟩⟩
    intro key other
    rw [keyed] at other
    cases other
  | some key =>
    simp only [keyed] at ended
    rcases ended.bind with ⟨cached, middle, lookup, rest⟩ | ⟨threw, rfl⟩
    · have read := Ends.call lookup
      obtain ⟨rfl, rfl⟩ := Ends.pure rest
      simp only [perform, Fault.answered] at read
      split at read
      · rename_i works
        cases read
        refine ⟨rfl, ?_⟩
        cases hit : (weather (.getIdempotent key)).cached.filter (· ≠ "") with
        | none =>
          refine .inl ⟨rfl, ?_⟩
          intro other same
          rw [keyed] at same
          cases same
          exact ⟨works, hit⟩
        | some cached => exact .inr ⟨key, rfl, .inr ⟨cached, rfl, works, hit⟩⟩
      · cases read
    · have read := Ends.call threw
      simp only [perform, Fault.answered] at read
      split at read
      · cases read
      · rename_i fails
        cases read
        exact ⟨rfl, .inr ⟨key, rfl, .inl ⟨rfl, fails⟩⟩⟩

theorem consumeRateLimit_ends {route : Route} {result : Option (Option Response)}
    (ended : Ends weather tid (consumeRateLimitSlotOrReject route) world result after) : after = world ∧
      ((result = some none ∧ (route.rateLimit = true →
          (weather .bumpDailyLimit).fault = .none ∧ (weather .bumpDailyLimit).flag = false)) ∨
        route.rateLimit = true ∧
          ((result = none ∧ (weather .bumpDailyLimit).fault ≠ .none) ∨
            result = some (some (Response.error 429 "Daily rate limit exceeded for this service")) ∧
              (weather .bumpDailyLimit).fault = .none ∧ (weather .bumpDailyLimit).flag = true)) := by
  unfold consumeRateLimitSlotOrReject at ended
  split at ended
  · rename_i limited
    rcases ended.bind with ⟨used, middle, bump, rest⟩ | ⟨threw, rfl⟩
    · have read := Ends.call bump
      obtain ⟨rfl, rfl⟩ := Ends.pure rest
      simp only [perform, Fault.answered] at read
      split at read
      · rename_i works
        cases read
        refine ⟨rfl, ?_⟩
        cases flag : (weather .bumpDailyLimit).flag with
        | false => exact .inl ⟨rfl, fun _ => ⟨works, rfl⟩⟩
        | true => exact .inr ⟨limited, .inr ⟨rfl, works, rfl⟩⟩
      · cases read
    · have read := Ends.call threw
      simp only [perform, Fault.answered] at read
      split at read
      · cases read
      · rename_i fails
        cases read
        exact ⟨rfl, .inr ⟨limited, .inl ⟨rfl, fails⟩⟩⟩
  · rename_i unlimited
    obtain ⟨rfl, rfl⟩ := Ends.pure ended
    exact ⟨rfl, .inl ⟨rfl, fun limited => absurd limited unlimited⟩⟩

/-! ## Single ends -/

/-- The answer of a call that records a refund of this payment: an error, marked with what came of it. -/
def RefundAnswer (weather : Weather proxyMachine) (proof : PaymentProof) (input : EnqueueInput) (response : Response)
    (after : World) : Prop :=
  (∃ error, response.body = .error error) ∧
    ((response.refundStatus = some .pending ∧
        (after.refunds (refundIdForPaymentTx proof.paymentTx)).isSome = true ∧ ¬ RefundLost weather input) ∨
      (response.refundStatus = some .manualReview ∧
        ((after.refunds (refundIdForPaymentTx proof.paymentTx)).isSome = true ↔ RefundLost weather input)))

theorem accounted_refund {proof : PaymentProof} (settled : call.settledPayment = some proof) {input : EnqueueInput}
    {response : Response} (answer : RefundAnswer weather proof input response after) :
    call.Accounted (some response) after ↔ ¬ RefundLost weather input := by
  obtain ⟨⟨error, refused⟩, recorded⟩ := answer
  have unserved : ¬ call.Served (some response) after := by
    rintro ⟨_, text, ⟨⟩, served, -⟩
    rw [refused] at served
    cases served
  have refunded : call.Refunded after ↔ (after.refunds (refundIdForPaymentTx proof.paymentTx)).isSome = true := by
    constructor
    · rintro ⟨other, sameProof, stored⟩
      rw [settled] at sameProof
      cases sameProof
      exact stored
    · intro stored
      exact ⟨proof, settled, stored⟩
  have flagged : Flagged (some response) ↔ response.refundStatus = some .manualReview := by
    constructor
    · rintro ⟨_, ⟨⟩, marked⟩
      exact marked
    · intro marked
      exact ⟨response, rfl, marked⟩
  unfold Accounted
  rw [refunded, flagged]
  rcases recorded with ⟨pending, stored, kept⟩ | ⟨manual, stored⟩
  · simp [unserved, stored, pending, kept]
  · simp [unserved, stored, manual]

/-- A served charge without a refund record is accounted for. -/
theorem accounted_served {response : Response} (unmarked : response.refundStatus = none)
    (served : call.Served (some response) after) (unrefunded : ¬ call.Refunded after) :
    call.Accounted (some response) after := by
  refine .inl ⟨served, unrefunded, ?_⟩
  rintro ⟨_, ⟨⟩, marked⟩
  rw [unmarked] at marked
  cases marked

/-- An exception, or an error answer without a mark, leaves an unrefunded charge unaccounted for. -/
theorem unaccounted {result : Option Response} (unserved : ¬ call.Served result after)
    (unrefunded : ¬ call.Refunded after) (unflagged : ¬ Flagged result) : ¬ call.Accounted result after := by
  rintro (⟨served, -, -⟩ | ⟨-, refunded, -⟩ | ⟨-, -, flagged⟩)
  · exact unserved served
  · exact unrefunded refunded
  · exact unflagged flagged

theorem unaccounted_exception (unrefunded : ¬ call.Refunded after) : ¬ call.Accounted none after :=
  unaccounted (fun ⟨_, _, same, _⟩ => nomatch same) unrefunded (fun ⟨_, same, _⟩ => nomatch same)

/-! ## Recording a refund and turning a reply into a job -/

section Charge

variable (charge : call.channelDelivery = none) {proof : PaymentProof} (settled : call.settledPayment = some proof)
  (fresh : world.refunds (refundIdForPaymentTx proof.paymentTx) = none)

include fresh in
theorem refund_ends {reason : RefundReason} {status : ℕ} {error : String} {result : Option Response}
    (ended : Ends weather tid (call.refund reason proof (Response.error status error)) world result after) :
    ∃ response, result = some response ∧
      RefundAnswer weather proof (call.input weather reason proof) response after := by
  unfold refund at ended
  rcases ended.bind with ⟨orderId, middle, recorded, rest⟩ | ⟨threw, -⟩
  · obtain ⟨_, ⟨⟩, row⟩ := Ends.lift recorded
    cases row
    rcases rest.bind with ⟨stored, _, attempted, final⟩ | ⟨threw, -⟩
    · obtain ⟨inner, ⟨⟩, enqueued⟩ := Ends.attempt attempted
      obtain ⟨-, (⟨isSome, refunds⟩ | ⟨rfl, refunds⟩)⟩ := enqueueRefund_ends fresh enqueued
      · obtain ⟨record, rfl⟩ := Option.isSome_iff_exists.mp isSome
        obtain ⟨rfl, rfl⟩ := Ends.pure final
        exact ⟨_, rfl, ⟨error, rfl⟩, .inl ⟨rfl, refunds⟩⟩
      · obtain ⟨rfl, rfl⟩ := Ends.pure final
        exact ⟨_, rfl, ⟨error, rfl⟩, .inr ⟨rfl, refunds⟩⟩
    · obtain ⟨inner, same, -⟩ := Ends.attempt threw
      cases same
  · obtain ⟨_, same, -⟩ := Ends.lift threw
    cases same

include charge in
theorem releaseLock_ends {result : Option Unit}
    (ended : Ends weather tid call.asyncCall.releaseLock world result after) : result = some () ∧ after = world := by
  simp only [AsyncCall.releaseLock, asyncCall, charge] at ended
  exact Ends.pure ended

include charge settled fresh in
theorem withoutJobId_ends {body : MerchantBody} {result : Option Response}
    (ended : Ends weather tid (call.asyncCall.withoutJobId body) world result after) :
    ∃ response, result = some response ∧
      RefundAnswer weather proof (call.asyncCall.refundInput proof) response after := by
  have noVoucher : call.asyncCall.voucher = none := by simp only [AsyncCall.voucher, asyncCall, charge, Option.filter]
  have noClose : call.asyncCall.channelDelivery = none := charge
  have proved : call.asyncCall.paymentProof = some proof := settled
  have plain : call.asyncCall.withoutJobId body = call.asyncCall.refundWithoutJobId proof := by
    simp only [AsyncCall.withoutJobId, AsyncCall.rollbackVoucher, noVoucher, proved]
    rfl
  rw [plain] at ended
  unfold AsyncCall.refundWithoutJobId at ended
  rcases ended.bind with ⟨stored, middle, attempted, rest⟩ | ⟨threw, -⟩
  · obtain ⟨inner, ⟨⟩, enqueued⟩ := Ends.attempt attempted
    obtain ⟨-, (⟨isSome, refunds⟩ | ⟨rfl, refunds⟩)⟩ := enqueueRefund_ends fresh enqueued
    · obtain ⟨record, rfl⟩ := Option.isSome_iff_exists.mp isSome
      simp only [AsyncCall.releaseCloseLock, noClose, Option.any_none, Bool.false_eq_true, if_false] at rest
      obtain ⟨rfl, rfl⟩ := Ends.pure rest
      exact ⟨_, rfl, ⟨_, rfl⟩, .inl ⟨rfl, refunds⟩⟩
    · obtain ⟨rfl, rfl⟩ := Ends.pure rest
      exact ⟨_, rfl, ⟨_, rfl⟩, .inr ⟨rfl, refunds⟩⟩
  · obtain ⟨inner, same, -⟩ := Ends.attempt threw
    cases same

include charge settled fresh in
theorem unpersisted_ends {result : Option Response}
    (ended : Ends weather tid call.asyncCall.unpersisted world result after) :
    ∃ response, result = some response ∧
      RefundAnswer weather proof (call.asyncCall.refundInput proof) response after := by
  have noVoucher : call.asyncCall.voucher = none := by simp only [AsyncCall.voucher, asyncCall, charge, Option.filter]
  have proved : call.asyncCall.paymentProof = some proof := settled
  simp only [AsyncCall.unpersisted, noVoucher, proved] at ended
  rcases ended.bind with ⟨stored, middle, attempted, rest⟩ | ⟨threw, -⟩
  · obtain ⟨inner, ⟨⟩, both⟩ := Ends.attempt attempted
    rcases both.bind with ⟨record, _, enqueued, release⟩ | ⟨enqueued, rfl⟩
    · obtain ⟨rfl, rfl⟩ := releaseLock_ends charge release
      obtain ⟨-, (⟨-, refunds⟩ | ⟨same, -⟩)⟩ := enqueueRefund_ends fresh enqueued
      · obtain ⟨rfl, rfl⟩ := Ends.pure rest
        exact ⟨_, rfl, ⟨_, rfl⟩, .inl ⟨rfl, refunds⟩⟩
      · cases same
    · obtain ⟨-, (⟨isSome, -⟩ | ⟨-, refunds⟩)⟩ := enqueueRefund_ends fresh enqueued
      · cases isSome
      · obtain ⟨rfl, rfl⟩ := Ends.pure rest
        exact ⟨_, rfl, ⟨_, rfl⟩, .inr ⟨rfl, refunds⟩⟩
  · obtain ⟨inner, same, -⟩ := Ends.attempt threw
    cases same

theorem put_fails {jobId : String} {record : JobAuthRecord} {choice : Choice} {answer : Option Unit}
    (fails : choice.fault ≠ .none) (put : perform tid (.putJob jobId record) choice world = some (answer, after)) :
    answer = none ∧ after.refunds = world.refunds := by
  cases fault : choice.fault with
  | none => exact absurd fault fails
  | lost | failed =>
    simp only [perform, fault, Fault.apply] at put
    cases put
    exact ⟨rfl, rfl⟩

include charge settled fresh in
/-- What a reply leads to: a delivery, a refund, a refusal for want of an account, or a stored job. -/
theorem handleAsyncJob_cases {body : MerchantBody} {merchantStatus : ℕ} {result : Option (Option Response)}
    (ended : Ends weather tid (call.asyncCall.handleAsyncJob body merchantStatus) world result after) :
    match isAsyncJobResponse merchantStatus body with
    | (false, _) => result = some none ∧ after = world
    | (true, none) => ∃ response, result = some (some response) ∧
        RefundAnswer weather proof (call.asyncCall.refundInput proof) response after
    | (true, some jobId) => match call.auth.extractStellarAddress with
      | none => ∃ error, result = some (some (Response.error 401 error)) ∧ after = world
      | some account =>
        let record := call.asyncCall.jobRecord jobId account (weather .now).now
        if (weather (.putJob jobId record)).fault = .none then
          (result = if AsyncCall.isHeaderValue jobId then
              some (some { status := 202, body := .merchant body.text, jobId := some jobId }) else none) ∧
            (jobId, record) ∈ after.acceptedJobs ∧ after.refunds = world.refunds
        else ∃ response, result = some (some response) ∧
          RefundAnswer weather proof (call.asyncCall.refundInput proof) response after := by
  unfold AsyncCall.handleAsyncJob at ended
  have same : call.asyncCall.auth = call.auth := rfl
  rw [same] at ended
  generalize isAsyncJobResponse merchantStatus body = async at ended ⊢
  rcases async with ⟨_ | _, _ | jobId⟩
  · exact Ends.pure ended
  · exact Ends.pure ended
  · rcases Ends.bind ended with ⟨response, _, inner, final⟩ | ⟨inner, rfl⟩
    · obtain ⟨_, ⟨⟩, answer⟩ := withoutJobId_ends charge settled fresh inner
      cases final
      exact ⟨_, rfl, answer⟩
    · obtain ⟨_, same, -⟩ := withoutJobId_ends charge settled fresh inner
      cases same
  · generalize call.auth.extractStellarAddress = account at ended ⊢
    cases account with
    | none => exact ⟨_, Ends.pure ended⟩
    | some account =>
      dsimp only at ended ⊢
      rcases ended.bind with ⟨paidAt, _, clock, rest⟩ | ⟨threw, -⟩
      · obtain ⟨_, ⟨⟩, ticks⟩ := Ends.lift clock
        cases ticks
        rcases rest.bind with ⟨stored, _, attempted, final⟩ | ⟨threw, -⟩
        · obtain ⟨inner, ⟨⟩, puts⟩ := Ends.attempt attempted
          have put := Ends.call puts
          split
          · rename_i works
            simp only [perform, works] at put
            cases put
            dsimp only at final
            split_ifs at final with headed
            · obtain ⟨rfl, rfl⟩ := Ends.pure final
              exact ⟨by rw [if_pos headed], mem_cons_self, rfl⟩
            · cases final
              exact ⟨by rw [if_neg headed], mem_cons_self, rfl⟩
          · rename_i fails
            obtain ⟨rfl, kept⟩ := @put_fails tid _ _ _ _ _ _ fails put
            have unrefunded : _ = none := (congrFun kept _).trans fresh
            rcases Ends.bind final with ⟨response, _, inner, last⟩ | ⟨inner, rfl⟩
            · obtain ⟨_, ⟨⟩, answer⟩ := unpersisted_ends charge settled unrefunded inner
              cases last
              exact ⟨_, rfl, answer⟩
            · obtain ⟨_, same, -⟩ := unpersisted_ends charge settled unrefunded inner
              cases same
        · obtain ⟨inner, same, -⟩ := Ends.attempt threw
          cases same
      · obtain ⟨_, same, -⟩ := Ends.lift threw
        cases same

/-! ## The whole call -/

include charge in
theorem letGo_ends {response : Response} {result : Option Response}
    (ended : Ends weather tid (do
      call.letGo
      pure response) world result after) : result = some response ∧ after = world := by
  rcases ended.bind with ⟨_, middle, lets, rest⟩ | ⟨threw, -⟩
  · unfold letGo at lets
    rcases lets.bind with ⟨_, _, attempted, final⟩ | ⟨threw, -⟩
    · obtain ⟨inner, -, released⟩ := Ends.attempt attempted
      obtain ⟨-, rfl⟩ := releaseLock_ends charge released
      obtain ⟨-, rfl⟩ := Ends.pure final
      exact Ends.pure rest
    · obtain ⟨_, same, -⟩ := Ends.attempt threw
      cases same
  · unfold letGo at threw
    rcases threw.bind with ⟨_, _, -, final⟩ | ⟨threw, -⟩
    · cases (Ends.pure final).1
    · obtain ⟨_, same, -⟩ := Ends.attempt threw
      cases same

include charge in
/-- Handing on a delivery neither fails nor changes the books. -/
theorem handOn_ends {text : String} {response : Response} {result : Option Response}
    (ended : Ends weather tid (do
      call.asyncCall.releaseLock
      call.remember text
      pure response) world result after) : result = some response ∧ after = world := by
  rcases ended.bind with ⟨_, middle, released, rest⟩ | ⟨threw, -⟩
  · obtain ⟨-, rfl⟩ := releaseLock_ends charge released
    unfold remember at rest
    cases keyed : call.idempotencyKey with
    | none =>
      simp only [keyed] at rest
      exact Ends.pure rest
    | some key =>
      simp only [keyed] at rest
      rcases rest.bind with ⟨_, _, puts, final⟩ | ⟨threw, -⟩
      · obtain ⟨_, -, put⟩ := Ends.lift puts
        cases put
        exact Ends.pure final
      · obtain ⟨_, same, -⟩ := Ends.lift threw
        cases same
  · cases (releaseLock_ends charge threw).1

include charge settled fresh in
/-- An accepted reply accounts for the charge unless its refund is lost or its job has no owner. -/
theorem ok_accounted {body : MerchantBody} {merchantStatus : ℕ} {result : Option Response}
    (ended : Ends weather tid (call.accepted body merchantStatus) world result after) :
    call.Accounted result after ↔
      match isAsyncJobResponse merchantStatus body with
      | (false, _) => True
      | (true, none) => ¬ RefundLost weather (call.asyncCall.refundInput proof)
      | (true, some jobId) => ∃ account, call.auth.extractStellarAddress = some account ∧
          let stores := (weather (.putJob jobId (call.asyncCall.jobRecord jobId account (weather .now).now))).fault = .none
          (¬ stores → ¬ RefundLost weather (call.asyncCall.refundInput proof)) ∧
            (stores → AsyncCall.isHeaderValue jobId = true) := by
  have unrefunded : ∀ later : World, later.refunds = world.refunds → ¬ call.Refunded later := by
    rintro later same ⟨other, sameProof, stored⟩
    rw [settled] at sameProof
    cases sameProof
    rw [same, fresh] at stored
    cases stored
  unfold accepted at ended
  rcases ended.bind with ⟨job, middle, handled, rest⟩ | ⟨threw, rfl⟩
  · have outcome := handleAsyncJob_cases charge settled fresh handled
    generalize isAsyncJobResponse merchantStatus body = async at outcome ⊢
    rcases async with ⟨_ | _, _ | jobId⟩
    · obtain ⟨⟨⟩, rfl⟩ := outcome
      obtain ⟨rfl, rfl⟩ := handOn_ends charge rest
      exact iff_of_true (accounted_served rfl ⟨_, _, rfl, rfl, .inl rfl⟩ (unrefunded _ rfl)) trivial
    · obtain ⟨⟨⟩, rfl⟩ := outcome
      obtain ⟨rfl, rfl⟩ := handOn_ends charge rest
      exact iff_of_true (accounted_served rfl ⟨_, _, rfl, rfl, .inl rfl⟩ (unrefunded _ rfl)) trivial
    · obtain ⟨response, ⟨⟩, answer⟩ := outcome
      obtain ⟨rfl, rfl⟩ := Ends.pure rest
      exact accounted_refund settled answer
    · generalize call.auth.extractStellarAddress = account at outcome ⊢
      cases account with
      | none =>
        obtain ⟨error, ⟨⟩, rfl⟩ := outcome
        obtain ⟨rfl, rfl⟩ := Ends.pure rest
        refine iff_of_false (unaccounted ?_ (unrefunded _ rfl) ?_) (by simp)
        · rintro ⟨_, text, ⟨⟩, served, -⟩
          cases served
        · rintro ⟨_, ⟨⟩, marked⟩
          cases marked
      | some account =>
        dsimp only at outcome
        split at outcome
        · rename_i works
          obtain ⟨answers, stored, kept⟩ := outcome
          split_ifs at answers with headed
          cases answers
          obtain ⟨rfl, rfl⟩ := Ends.pure rest
          refine iff_of_true (accounted_served rfl ⟨_, _, rfl, rfl, .inr ⟨rfl, _, _, rfl, stored, rfl⟩⟩
            (unrefunded _ kept)) ⟨account, rfl, fun fails => absurd works fails, fun _ => headed⟩
        · rename_i fails
          obtain ⟨response, ⟨⟩, answer⟩ := outcome
          obtain ⟨rfl, rfl⟩ := Ends.pure rest
          rw [accounted_refund settled answer]
          constructor
          · intro kept
            exact ⟨account, rfl, fun _ => kept, fun works => absurd works fails⟩
          · rintro ⟨_, ⟨⟩, kept, -⟩
            exact kept fails
  · have outcome := handleAsyncJob_cases charge settled fresh threw
    generalize isAsyncJobResponse merchantStatus body = async at outcome ⊢
    rcases async with ⟨_ | _, _ | jobId⟩
    · cases outcome.1
    · cases outcome.1
    · obtain ⟨_, same, -⟩ := outcome
      cases same
    · generalize call.auth.extractStellarAddress = account at outcome ⊢
      cases account with
      | none =>
        obtain ⟨_, same, -⟩ := outcome
        cases same
      | some account =>
        dsimp only at outcome
        split at outcome
        · rename_i works
          obtain ⟨answers, -, kept⟩ := outcome
          split_ifs at answers with headed
          refine iff_of_false (unaccounted_exception (unrefunded _ kept)) ?_
          rintro ⟨_, ⟨⟩, -, stands⟩
          exact headed (stands works)
        · obtain ⟨_, same, -⟩ := outcome
          cases same

include charge settled fresh in
theorem limited_accounted {result : Option Response}
    (ended : Ends weather tid (call.limited (Response.error 429 "Daily rate limit exceeded for this service")) world
      result after) :
    call.Accounted result after ↔ ¬ RefundLost weather (call.input weather .nonFulfillment proof) := by
  have noVoucher : call.asyncCall.voucher = none := by simp only [AsyncCall.voucher, asyncCall, charge, Option.filter]
  simp only [limited, noVoucher, settled] at ended
  rcases ended.bind with ⟨marked, middle, refunds, rest⟩ | ⟨threw, -⟩
  · obtain ⟨response, ⟨⟩, answer⟩ := refund_ends fresh refunds
    obtain ⟨rfl, rfl⟩ := letGo_ends charge rest
    exact accounted_refund settled answer
  · obtain ⟨_, same, -⟩ := refund_ends fresh threw
    cases same

include charge settled fresh in
theorem failed_accounted (pooled : call.route.operator = false) {reason : RefundReason} {status : ℕ} {error : String}
    {result : Option Response}
    (ended : Ends weather tid (call.failed reason (Response.error status error)) world result after) :
    call.Accounted result after ↔ ¬ RefundLost weather (call.input weather reason proof) := by
  have noVoucher : call.asyncCall.voucher = none := by simp only [AsyncCall.voucher, asyncCall, charge, Option.filter]
  simp only [failed, noVoucher, settled, pooled, Bool.false_eq_true, if_false] at ended
  rcases ended.bind with ⟨marked, middle, refunds, rest⟩ | ⟨threw, -⟩
  · obtain ⟨response, ⟨⟩, answer⟩ := refund_ends fresh refunds
    obtain ⟨rfl, rfl⟩ := letGo_ends charge rest
    exact accounted_refund settled answer
  · obtain ⟨_, same, -⟩ := refund_ends fresh threw
    cases same

/-! ## The whole call -/

/-- Whatever is owed or replied, the lookup found no earlier answer. -/
theorem Owes.misses {input : EnqueueInput} (owes : call.Owes weather tid pick world input) : call.Misses weather := by
  cases owes with
  | limited _ _ misses => exact misses
  | failed _ _ _ _ _ replies => exact replies.1.1
  | jobless _ _ _ _ replies => exact replies.1.1
  | unstored _ _ _ _ _ _ replies => exact replies.1.1

theorem Replies.unique {reply : MerchantPayResult} {result : Option MerchantPayResult} {paid : World}
    (replied : Ends weather tid (payMerchantAndGetBody pick none call.route call.quote) world result paid)
    (replies : call.Replies weather tid pick world reply) :
    reply = result.getD (.error .timeout 502 "Merchant delivery failed") := by
  obtain ⟨-, other, _, ran, rfl⟩ := replies
  rw [(Ends.unique ran replied).1]

end Charge

section Missed

variable (charge : call.channelDelivery = none) {proof : PaymentProof} (settled : call.settledPayment = some proof)
  (fresh : world.refunds (refundIdForPaymentTx proof.paymentTx) = none) (pooled : call.route.operator = false)

include charge settled fresh pooled in
theorem deliver_accounted (allowed : call.Allowed weather) {result : Option Response}
    (ended : Ends weather tid (call.deliver pick) world result after) :
    call.Accounted result after ↔ call.Tracked weather tid pick world := by
  have lookup : ∀ key, call.idempotencyKey = some key → (weather (.getIdempotent key)).fault = .none :=
    fun key keyed => (allowed.1 key keyed).1
  have limit : call.route.rateLimit = true → (weather .bumpDailyLimit).fault = .none :=
    fun limited => (allowed.2 limited).1
  unfold deliver at ended
  rcases ended.bind with ⟨paid, middle, attempted, rest⟩ | ⟨threw, -⟩
  · obtain ⟨inner, ⟨⟩, ran⟩ := Ends.attempt attempted
    have freshPaid : middle.refunds (refundIdForPaymentTx proof.paymentTx) = none := by
      obtain ⟨credentials, rfl⟩ := payMerchantAndGetBody_sameBooks ran
      exact fresh
    have replies : call.Replies weather tid pick world (paid.getD (.error .timeout 502 "Merchant delivery failed")) :=
      ⟨allowed, paid, _, ran, rfl⟩
    have only : ∀ reply, call.Replies weather tid pick world reply →
        reply = paid.getD (.error .timeout 502 "Merchant delivery failed") := fun reply => Replies.unique ran
    generalize paid.getD (.error .timeout 502 "Merchant delivery failed") = reply at rest replies only
    cases reply with
    | error reason status error =>
      have failure : Ends weather tid (call.failed reason (Response.error status error)) middle result after := rest
      rw [failed_accounted charge settled freshPaid pooled failure]
      constructor
      · intro kept
        refine ⟨fun _ => lookup, fun _ _ => limit, ?_, ?_, ?_⟩
        · intro input owes
          cases owes with
          | limited other same misses limited works used =>
            have unused := (allowed.2 limited).2
            rw [used] at unused
            cases unused
          | failed other same _ _ _ replied =>
            cases only _ replied
            rw [settled] at same
            cases same
            exact kept
          | jobless _ _ _ _ replied => cases only _ replied
          | unstored _ _ _ _ _ _ replied => cases only _ replied
        · intro _ body merchantStatus jobId other
          cases only _ other
        · intro _ body merchantStatus jobId account other
          cases only _ other
      · intro tracked
        exact tracked.refund _ (.failed proof settled reason status error replies)
    | ok body merchantStatus =>
      have accepted : Ends weather tid (call.accepted body merchantStatus) middle result after := rest
      rw [ok_accounted charge settled freshPaid accepted]
      constructor
      · intro accounted
        refine ⟨fun _ => lookup, fun _ _ => limit, ?_, ?_, ?_⟩
        · intro input owes
          cases owes with
          | limited other same misses limited works used =>
            have unused := (allowed.2 limited).2
            rw [used] at unused
            cases unused
          | failed _ _ _ _ _ replied => cases only _ replied
          | jobless other same body' merchantStatus' replied async =>
            cases only _ replied
            rw [settled] at same
            cases same
            rw [async] at accounted
            exact accounted
          | unstored other same body' merchantStatus' jobId account replied async bound fault =>
            cases only _ replied
            rw [settled] at same
            cases same
            rw [async] at accounted
            obtain ⟨named, same, kept, -⟩ := accounted
            rw [bound] at same
            cases same
            exact kept fault
        · intro _ body' merchantStatus' jobId replied async
          cases only _ replied
          rw [async] at accounted
          obtain ⟨account, bound, -⟩ := accounted
          rw [bound]
          nofun
        · intro _ body' merchantStatus' jobId account replied async bound works
          cases only _ replied
          rw [async] at accounted
          obtain ⟨named, same, -, headed⟩ := accounted
          rw [bound] at same
          cases same
          exact headed works
      · intro tracked
        split
        · trivial
        · rename_i async
          exact tracked.refund _ (.jobless proof settled body merchantStatus replies async)
        · rename_i jobId async
          cases bound : call.auth.extractStellarAddress with
          | none => exact absurd bound (tracked.bound (by simp [settled]) body merchantStatus jobId replies async)
          | some account =>
            refine ⟨account, rfl, fun fault => ?_, fun works => ?_⟩
            · exact tracked.refund _ (.unstored proof settled body merchantStatus jobId account replies async bound fault)
            · exact tracked.headed (by simp [settled]) body merchantStatus jobId account replies async bound works
  · obtain ⟨_, same, -⟩ := Ends.attempt threw
    cases same

include charge settled fresh pooled in
theorem missed_accounted (unrefunded : ¬ call.Refunded world) (misses : call.Misses weather) {result : Option Response}
    (ended : Ends weather tid (do
      match ← consumeRateLimitSlotOrReject call.route with
      | some rejected => call.limited rejected
      | none => call.deliver pick) world result after) :
    call.Accounted result after ↔ call.Tracked weather tid pick world := by
  have lookup : ∀ key, call.idempotencyKey = some key → (weather (.getIdempotent key)).fault = .none :=
    fun key keyed => (misses key keyed).1
  rcases ended.bind with ⟨rejection, middle, limits, rest⟩ | ⟨threw, rfl⟩
  · obtain ⟨rfl, (⟨⟨⟩, allows⟩ | ⟨limited, (⟨⟨⟩, -⟩ | ⟨⟨⟩, works, used⟩)⟩)⟩ := consumeRateLimit_ends limits
    · exact deliver_accounted charge settled fresh pooled ⟨misses, allows⟩ rest
    · have barred : ¬ call.Allowed weather := by
        intro allowed
        have unused := (allowed.2 limited).2
        rw [used] at unused
        cases unused
      rw [limited_accounted charge settled fresh rest]
      constructor
      · intro kept
        refine ⟨fun _ => lookup, fun _ _ _ => works, ?_, fun _ _ _ _ replies => absurd replies.1 barred,
          fun _ _ _ _ _ replies => absurd replies.1 barred⟩
        intro input owes
        cases owes with
        | limited other same =>
          rw [settled] at same
          cases same
          exact kept
        | failed _ _ _ _ _ replies => exact absurd replies.1 barred
        | jobless _ _ _ _ replies => exact absurd replies.1 barred
        | unstored _ _ _ _ _ _ replies => exact absurd replies.1 barred
      · intro tracked
        exact tracked.refund _ (.limited proof settled misses limited works used)
  · obtain ⟨rfl, (⟨⟨⟩, -⟩ | ⟨limited, (⟨-, fails⟩ | ⟨⟨⟩, -⟩)⟩)⟩ := consumeRateLimit_ends threw
    refine iff_of_false (unaccounted_exception unrefunded) ?_
    intro tracked
    exact fails (tracked.limit (by simp [settled]) misses limited)

end Missed

/-- Exactly one of delivery, refund record and mark holds at the end, exactly when no step loses track of the
charge. -/
theorem charge_accounted_iff {result : Option Response} (charge : call.channelDelivery = none)
    (pooled : call.route.operator = false) (fresh : ∀ proof, call.settledPayment = some proof →
      world.refunds (refundIdForPaymentTx proof.paymentTx) = none)
    (ended : Ends weather tid (call.settledCharge pick) world result after) :
    call.Accounted result after ↔ call.Tracked weather tid pick world := by
  cases settled : call.settledPayment with
  | none =>
    simp only [settledCharge, settled] at ended
    obtain ⟨rfl, rfl⟩ := Ends.pure ended
    refine iff_of_true (.inr (.inr ⟨?_, ?_, ⟨_, rfl, rfl⟩⟩)) ⟨?_, ?_, ?_, ?_, ?_⟩
    · rintro ⟨_, text, ⟨⟩, served, -⟩
      cases served
    · rintro ⟨proof, other, -⟩
      rw [settled] at other
      cases other
    · simp [settled]
    · simp [settled]
    · intro input owes
      cases owes <;> simp_all
    · simp [settled]
    · simp [settled]
  | some proof =>
    replace fresh := fresh proof settled
    have unrefunded : ¬ call.Refunded world := by
      rintro ⟨other, same, stored⟩
      rw [settled] at same
      cases same
      rw [fresh] at stored
      cases stored
    simp only [settledCharge, settled, afterVerify] at ended
    rcases ended.bind with ⟨cached, middle, lookup, rest⟩ | ⟨threw, rfl⟩
    · obtain ⟨rfl, (⟨⟨⟩, misses⟩ | ⟨key, keyed, (⟨⟨⟩, -⟩ | ⟨text, ⟨⟩, works, hit⟩)⟩)⟩ := cachedAnswer_ends lookup
      · exact missed_accounted charge settled fresh pooled unrefunded misses rest
      · have hits : ¬ call.Misses weather := by
          intro misses
          have missed := (misses key keyed).2
          rw [hit] at missed
          cases missed
        rcases rest.bind with ⟨_, _, released, final⟩ | ⟨threw, -⟩
        · obtain ⟨-, rfl⟩ := releaseLock_ends charge released
          obtain ⟨rfl, rfl⟩ := Ends.pure final
          refine iff_of_true (accounted_served rfl ⟨_, _, rfl, rfl, .inl rfl⟩ unrefunded) ⟨?_, ?_, ?_, ?_, ?_⟩
          · intro _ other same
            rw [keyed] at same
            cases same
            exact works
          · exact fun _ misses => absurd misses hits
          · exact fun input owes => absurd (Owes.misses owes) hits
          · exact fun _ _ _ _ replies => absurd replies.1.1 hits
          · exact fun _ _ _ _ _ replies => absurd replies.1.1 hits
        · cases (releaseLock_ends charge threw).1
    · obtain ⟨rfl, (⟨⟨⟩, -⟩ | ⟨key, keyed, (⟨-, fails⟩ | ⟨_, ⟨⟩, -⟩)⟩)⟩ := cachedAnswer_ends threw
      refine iff_of_false (unaccounted_exception unrefunded) ?_
      intro tracked
      exact fails (tracked.lookup (by simp [settled]) key keyed)

end MeteredCall

/-! ## A charge that nobody accounts for -/

def chargeProof : PaymentProof :=
  { paymentId := "payment", paymentTx := "tx", payer := "G", recipient := "R", asset := "USDC", amountAtomic := "100000"
    mode := .charge }

/-- A settled call that carries a request id. -/
def keyedCharge : MeteredCall :=
  { route := { id := "video_render", upstreamHost := "render.example", upstreamAuth := true }
    auth := ⟨none, false⟩, quote := priced "10000", merchantHost := "render.example", idempotencyKey := some "key"
    settledPayment := some chargeProof, channelDelivery := none }

/-- The merchant renders, and every store works. -/
def fairWeather : Weather proxyMachine
  | .fetchMerchant => { merchant := some ⟨200, some { text := "rendered" }⟩ }
  | _ => {}

theorem fair_charge_accounted : ∃ after,
    Ends fairWeather 0 (keyedCharge.settledCharge head?) World.start
      (some { status := 200, body := .merchant "rendered" }) after ∧
    (keyedCharge.Accounted (some { status := 200, body := .merchant "rendered" }) after ↔
      keyedCharge.Tracked fairWeather 0 head? World.start) :=
  ⟨_, rfl, MeteredCall.charge_accounted_iff rfl rfl (fun _ _ => rfl)
    (show Ends fairWeather 0 (keyedCharge.settledCharge head?) World.start _ _ from rfl)⟩

/-- The cache cannot be read. -/
def cacheDown : Weather proxyMachine
  | .getIdempotent _ => { fault := .failed }
  | action => fairWeather action

theorem charge_lost_with_the_cache : ∃ after,
    Ends cacheDown 0 (keyedCharge.settledCharge head?) World.start none after ∧
      ¬ keyedCharge.Accounted none after := by
  refine ⟨World.start, rfl, ?_⟩
  rintro (⟨⟨_, _, same, -⟩, -⟩ | ⟨-, ⟨proof, -, stored⟩, -⟩ | ⟨-, -, ⟨_, same, -⟩⟩)
  · cases same
  · cases stored
  · cases same

end MppRouter.Proxy
