import MppRouter.Proxy.X402Delivery

/-! # What a thread may do to jobs and vouchers

A run that finishes a job reads its record, claims the outcome, gives back what a failed job cost and only then
completes the outcome. A call stores its job once and never after its voucher was rolled back. The walk of
every handler is done here once, for all that is shown of jobs and of channels.
-/

namespace MppRouter.Proxy

open Concurrent Machine Refund Routes Throwing Typestate Option
open Mpp (cumulativeAmount)

/-- A response that hands on what the merchant delivered. -/
def Response.delivers (response : Response) : Bool :=
  response.status = 200 && match response.body with
    | .merchant _ => true
    | .error _ => false

@[simp] theorem Response.error_delivers (status : ℕ) (error : String) : (Response.error status error).delivers = false := by
  simp [Response.error, Response.delivers]

@[simp] theorem Response.marked_delivers (response : Response) (refundStatus : RefundStatus) :
    (response.marked refundStatus).delivers = response.delivers := rfl

/-! ## The phases of a thread -/

/-- An outcome that a run found or made for a job it had read. -/
structure JobClaim where
  jobId : String
  record : JobAuthRecord
  outcome : Outcome
  deriving DecidableEq, Repr

def JobClaim.key (claim : JobClaim) : TerminalKey := claim.record.terminalKey claim.jobId

structure JobPhase where
  /-- The job that was read last. -/
  read : Option (String × JobAuthRecord) := none
  claim : Option JobClaim := none
  /-- What the claimed job cost was given back. -/
  compensated : Bool := false
  /-- The latest voucher that was rolled back. -/
  rolled : Option ChannelDelivery := none
  /-- The delivery of the metered call at work. -/
  lockId : Option Uuid := none
  /-- A channel's cumulative amount, as it was read last. -/
  previous : Option (String × ℕ) := none
  /-- Its credential was presented. -/
  presented : Bool := false
  /-- What was accepted for it. -/
  vouched : Option ChannelDelivery := none
  /-- It was asked to roll its voucher back. -/
  undone : Bool := false
  /-- Its job was stored. -/
  stored : Bool := false
  deriving DecidableEq, Repr

namespace JobPhase

variable (phase : JobPhase)

/-- The voucher is the call's own, of which no job is stored, or that of a job claimed as failed. -/
def Undoes (delivery : ChannelDelivery) : Prop :=
  (phase.lockId = some delivery.lockId ∧ phase.vouched = some delivery ∧ phase.stored = false) ∨
    ∃ claim, phase.claim = some claim ∧ claim.outcome = .failed ∧ claim.record.voucher = some delivery

/-- The claimed job, if it failed, was given back what it cost, where it cost something. -/
def Settled (claim : JobClaim) : Prop :=
  claim.outcome = .failed → phase.compensated = true ∨ claim.record.voucher = none ∧ claim.record.paymentProof = none

/-- A call with such a record may store it. -/
def Stores (record : JobAuthRecord) : Prop :=
  phase.stored = false ∧ phase.undone = false ∧
    (record.paymentProof.isSome = true ∨ record.voucher.isSome = true) ∧
    ∀ delivery, record.channelDelivery = some delivery →
      phase.lockId = some delivery.lockId ∧ phase.vouched = some delivery

/-- What a thread may do; calls are at work only where handlers are. -/
def allowed (handlers : Prop) : Action → Prop
  | .claimTerminal key _ record => ∃ jobId, phase.read = some (jobId, record) ∧ key = record.terminalKey jobId
  | .createRefund none _ => handlers
  | .createRefund (some key) input => ∃ claim, phase.claim = some claim ∧ claim.key = key ∧ claim.outcome = .failed ∧
      claim.record.paymentProof = some input.proof
  | .releaseLock none _ _ => handlers
  | .releaseLock (some key) channelContract lockId => ∃ claim delivery, phase.claim = some claim ∧ claim.key = key ∧
      claim.record.channelDelivery = some delivery ∧ delivery.channelContract = channelContract ∧
      delivery.lockId = lockId
  | .rollbackCumulative delivery => phase.Undoes delivery
  | .deleteChallenge challengeId => ∃ delivery, phase.rolled = some delivery ∧ delivery.challengeId = challengeId
  | .putTerminal key outcome => ∃ claim, phase.claim = some claim ∧ claim.key = key ∧ claim.outcome = outcome ∧
      phase.Settled claim
  | .randomUuid => handlers ∧ phase.lockId = none
  | .acquireLock _ lockId => handlers ∧ phase.lockId = some lockId ∧ phase.presented = false
  | .verifyVoucher channelContract lockId _ _ _ => handlers ∧ phase.lockId = some lockId ∧ phase.presented = false ∧
      ∃ previousAmount, phase.previous = some (channelContract, previousAmount)
  | .putJob _ record => handlers ∧ phase.Stores record
  | .respond lockId response => phase.lockId = some lockId ∧
      (response.delivers = true → phase.undone = false ∧ phase.stored = false)
  | _ => True

/-- The claimed job's voucher, if any, meets a condition. -/
def claimsVoucher (condition : ChannelDelivery → Bool) : Bool :=
  phase.claim.any fun claim => claim.record.voucher.any condition

def next : JobPhase → (action : Action) → action.Answer → JobPhase
  | phase, .getJob jobId, answer =>
    { phase with read := answer.join.map fun record => (jobId, record), claim := none, compensated := false }
  | phase, .claimTerminal _ outcome record, some answer =>
    if answer = .conflict then phase
    else { phase with claim := phase.read.map fun read => ⟨read.1, record, outcome⟩, compensated := false }
  | phase, .createRefund (some _) _, some _ =>
    { phase with compensated := phase.compensated || phase.claim.any fun claim => claim.record.voucher.isNone }
  | phase, .rollbackCumulative delivery, some true =>
    { phase with
      rolled := some delivery
      undone := phase.undone || phase.lockId = some delivery.lockId
      compensated := phase.compensated || phase.claimsVoucher (· = delivery) }
  | phase, .rollbackCumulative delivery, _ =>
    { phase with undone := phase.undone || phase.lockId = some delivery.lockId }
  | phase, .readChallenge challengeId, some false =>
    { phase with compensated := phase.compensated || phase.claimsVoucher fun delivery => delivery.challengeId = challengeId }
  | phase, .putJob _ _, some () => { phase with stored := true }
  | phase, .randomUuid, lockId =>
    { phase with
      lockId := some lockId, previous := none, presented := false, vouched := none, undone := false, stored := false }
  | phase, .acquireLock _ _, _ => { phase with previous := none }
  | phase, .readCumulative channelContract, some current =>
    { phase with previous := some (channelContract, cumulativeAmount current) }
  | phase, .verifyVoucher channelContract lockId challengeId amount action, some (.accepted _) =>
    { phase with
      presented := true
      vouched := phase.previous.map fun previous => ⟨channelContract, lockId, challengeId, amount, previous.2, action⟩ }
  | phase, .verifyVoucher _ _ _ _ _, _ => { phase with presented := true }
  | phase, .respond _ _, _ => { phase with lockId := none }
  | phase, _, _ => phase

end JobPhase

def jobFlow (handlers : Prop) : Typestate proxyMachine where
  Phase := JobPhase
  allowed phase := phase.allowed handlers
  next := JobPhase.next

/-- An action that has to do with no job and no voucher. -/
def Action.jobless : Action → Prop
  | .getJob _ | .claimTerminal _ _ _ | .createRefund _ _ | .releaseLock _ _ _ | .rollbackCumulative _
  | .deleteChallenge _ | .readChallenge _ | .putTerminal _ _ | .randomUuid | .acquireLock _ _ | .readCumulative _
  | .verifyVoucher _ _ _ _ _ | .putJob _ _ | .respond _ _ | .expireJob _ => False
  | _ => True

variable {handlers : Prop} {phase : JobPhase}

theorem jobless_stays (action : Action) (jobless : action.jobless) :
    phase.allowed handlers action ∧ ∀ answer, phase.next action answer = phase := by
  cases action with
  | getJob | claimTerminal | createRefund | releaseLock | rollbackCumulative | deleteChallenge | readChallenge
  | putTerminal | randomUuid | acquireLock | readCumulative | verifyVoucher | putJob | respond | expireJob => cases jobless
  | _ => exact ⟨trivial, fun _ => rfl⟩

theorem jobless_next {action : Action} (jobless : action.jobless) (answer : action.Answer) :
    phase.next action answer = phase :=
  (@jobless_stays True phase action jobless).2 answer

theorem Performs.jobless_follows {α : Type} {program : Handler α} (performs : Performs Action.jobless program) :
    (jobFlow handlers).Follows program.run (fun _ after => after = phase) phase :=
  Follows.of_performs (T := jobFlow handlers) jobless_stays performs

/-! ## Finishing a job -/

/-- The same job and the same call are at work, and what was given back stays given back. -/
structure JobPhase.Continues (before after : JobPhase) : Prop where
  read : after.read = before.read
  claim : after.claim = before.claim
  lockId : after.lockId = before.lockId
  stored : after.stored = before.stored
  compensated : before.compensated = true → after.compensated = true

theorem JobPhase.Continues.refl (phase : JobPhase) : phase.Continues phase := ⟨rfl, rfl, rfl, rfl, id⟩

section Finish

variable {jobId : String} {record : JobAuthRecord} {outcome : Outcome} {reason : Option RefundReason}

theorem rollback_follows {delivery : ChannelDelivery} (undoes : phase.Undoes delivery) :
    (jobFlow handlers).Follows (rollbackFailedChannelVoucher delivery).run
      (fun result after => phase.Continues after ∧
        (result = some true → phase.claimsVoucher (· = delivery) = true → after.compensated = true)) phase := by
  unfold rollbackFailedChannelVoucher
  apply Follows.seq
  refine ⟨undoes, fun rolledBack => ?_⟩
  rcases rolledBack with _ | _ | _
  · exact ⟨⟨rfl, rfl, rfl, rfl, id⟩, nofun⟩
  · apply Follows.seq
    refine ⟨trivial, fun current => ?_⟩
    cases current with
    | none => exact ⟨⟨rfl, rfl, rfl, rfl, id⟩, nofun⟩
    | some current =>
      apply Follows.seq
      refine ⟨trivial, fun challenge => ?_⟩
      rcases challenge with _ | _ | _
      · exact ⟨⟨rfl, rfl, rfl, rfl, id⟩, nofun⟩
      · refine ⟨⟨rfl, rfl, rfl, rfl, fun now => ?_⟩, fun _ claims => ?_⟩
        · show (phase.compensated || _) = true
          rw [now, Bool.true_or]
        · show (phase.compensated || JobPhase.claimsVoucher phase _) = true
          obtain ⟨claim, claimed, vouches⟩ := (any_eq_true _ _).mp claims
          obtain ⟨voucher, vouched, same⟩ := (any_eq_true _ _).mp vouches
          simp only [decide_eq_true_eq] at same
          subst same
          simp [JobPhase.claimsVoucher, claimed, vouched]
      · refine ⟨⟨rfl, rfl, rfl, rfl, id⟩, fun result => ?_⟩
        simp at result
  · apply Follows.seq
    have given : (jobFlow handlers).Follows (Prog.call (Action.deleteChallenge delivery.challengeId))
        (fun _ after => phase.Continues after ∧
          (phase.claimsVoucher (· = delivery) = true → after.compensated = true))
        (phase.next (.rollbackCumulative delivery) (some true)) := by
      refine ⟨⟨delivery, rfl, rfl⟩, fun _ => ⟨⟨rfl, rfl, rfl, rfl, fun now => ?_⟩, fun claims => ?_⟩⟩
      · show (phase.compensated || _) = true
        rw [now, Bool.true_or]
      · show (phase.compensated || _) = true
        rw [claims, Bool.or_true]
    refine given.mono fun deleted after now => ?_
    cases deleted with
    | none => exact ⟨now.1, nofun⟩
    | some _ => exact ⟨now.1, fun _ => now.2⟩

section Claimed

variable (claimed : phase.claim = some ⟨jobId, record, outcome⟩)

include claimed

theorem compensate_follows (reasoned : outcome = .failed → reason.isSome = true) :
    (jobFlow handlers).Follows (compensate (record.terminalKey jobId) record outcome reason).run
      (fun result after => phase.Continues after ∧ (result = some true → after.Settled ⟨jobId, record, outcome⟩)) phase := by
  unfold compensate
  split
  next delivery voucher =>
    have claims : phase.claimsVoucher (· = delivery) = true := by
      simp [JobPhase.claimsVoucher, claimed, voucher]
    refine (rollback_follows (.inr ⟨_, claimed, rfl, voucher⟩)).mono fun result after now => ?_
    exact ⟨now.1, fun worked _ => .inl (now.2 worked claims)⟩
  next reason proof voucher paid =>
    unfold enqueueRefund
    apply Follows.seq
    apply Follows.seq
    refine ⟨⟨_, claimed, rfl, rfl, paid⟩, fun created => ?_⟩
    cases created with
    | none => exact ⟨.refl phase, nofun⟩
    | some created =>
      have given : phase.Continues (phase.next (.createRefund (some (record.terminalKey jobId))
          (jobRefund record reason proof)) (some created)) :=
        ⟨rfl, rfl, rfl, rfl, fun now => by show (phase.compensated || _) = true; rw [now, Bool.true_or]⟩
      apply Follows.seq
      refine ⟨trivial, fun published => ?_⟩
      cases published with
      | none => exact ⟨given, nofun⟩
      | some _ =>
        refine ⟨given, fun _ _ => .inl ?_⟩
        show (phase.compensated || _) = true
        simp [claimed, voucher]
  next unrolled unrefunded =>
    refine ⟨.refl phase, fun _ failed => .inr ?_⟩
    obtain ⟨reason, rfl⟩ := isSome_iff_exists.mp (reasoned failed)
    cases voucher : record.voucher with
    | some delivery => exact absurd voucher (unrolled delivery failed)
    | none =>
      cases paid : record.paymentProof with
      | some proof => exact absurd paid (unrefunded reason proof failed voucher rfl)
      | none => exact ⟨rfl, rfl⟩

theorem releaseJobLock_follows :
    (jobFlow handlers).Follows (releaseJobLock (record.terminalKey jobId) record).run (fun _ after => after = phase)
      phase := by
  unfold releaseJobLock
  cases held : record.channelDelivery with
  | none => rfl
  | some delivery => exact ⟨⟨_, delivery, claimed, rfl, held, rfl, rfl⟩, fun _ => rfl⟩

theorem completeTerminal_follows (reasoned : outcome = .failed → reason.isSome = true) :
    (jobFlow handlers).Follows (completeTerminal (record.terminalKey jobId) record outcome reason).run
      (fun _ after => after.claim = phase.claim) phase := by
  unfold completeTerminal
  apply Follows.seq
  refine (compensate_follows claimed reasoned).mono fun result middle now => ?_
  obtain ⟨continues, settled⟩ := now
  rcases result with _ | _ | _
  · exact continues.claim
  · exact continues.claim
  · have standing : middle.claim = some ⟨jobId, record, outcome⟩ := continues.claim.trans claimed
    apply Follows.seq
    refine (releaseJobLock_follows standing).mono fun released after same => ?_
    subst same
    cases released with
    | none => exact continues.claim
    | some _ =>
      apply Follows.seq
      refine ⟨⟨_, standing, rfl, rfl, settled rfl⟩, fun completed => ?_⟩
      cases completed with
      | none => exact continues.claim
      | some _ => exact continues.claim

end Claimed

theorem finish_follows (read : phase.read = some (jobId, record))
    (reasoned : outcome = .failed → reason.isSome = true) :
    (jobFlow handlers).Follows (finishAsyncDelivery jobId record outcome reason).run
      (fun result after => result = some .done → after.claim = some ⟨jobId, record, outcome⟩) phase := by
  unfold finishAsyncDelivery
  apply Follows.seq
  refine ⟨⟨jobId, read, rfl⟩, fun claim => ?_⟩
  have claimed : ∀ answer : TerminalClaim, answer ≠ .conflict →
      (phase.next (.claimTerminal (record.terminalKey jobId) outcome record) (some answer)).claim =
        some ⟨jobId, record, outcome⟩ := by
    intro answer agrees
    simp [JobPhase.next, agrees, read]
  rcases claim with _ | _ | _ | _ | _
  · nofun
  · nofun
  · exact fun _ => claimed .done nofun
  · exact (completeTerminal_follows (claimed .retry nofun) reasoned).mono fun _ _ same _ =>
      same.trans (claimed .retry nofun)
  · exact (completeTerminal_follows (claimed .claimed nofun) reasoned).mono fun _ _ same _ =>
      same.trans (claimed .claimed nofun)

/-! ## Polls and cron passes -/

theorem pollMerchant_follows :
    (jobFlow handlers).Follows (pollMerchant record).run (fun _ after => after = phase) phase := by
  apply Performs.jobless_follows
  unfold pollMerchant
  apply Performs.bind (performs_ask trivial)
  intro response
  cases response with
  | none => exact trivial
  | some response => exact .bind (performs_readBody response) fun _ => .pure _

theorem finishChecked_follows (read : phase.read = some (jobId, record))
    (reasoned : outcome = .failed → reason.isSome = true) :
    (jobFlow handlers).Follows (finishChecked jobId record outcome reason).run anyhow phase := by
  unfold finishChecked
  apply Follows.seq
  refine (finish_follows read reasoned).mono fun result after _ => ?_
  cases result with
  | none => trivial
  | some result =>
    dsimp only
    split
    · exact ⟨trivial, fun _ => trivial⟩
    · trivial

theorem reconcileByPoll_follows (read : phase.read = some (jobId, record)) :
    (jobFlow handlers).Follows (reconcileByPoll jobId record).run anyhow phase := by
  unfold reconcileByPoll
  apply Follows.seq
  refine pollMerchant_follows.mono fun polled after same => ?_
  subst same
  rcases polled with _ | ⟨response, body⟩
  · trivial
  · dsimp only
    split
    · exact finishChecked_follows read fun _ => rfl
    · split
      · exact finishChecked_follows read nofun
      · trivial

theorem reconcileJob_follows : (jobFlow handlers).Follows (reconcileJob jobId).run anyhow phase := by
  unfold reconcileJob
  apply Follows.seq
  refine ⟨trivial, fun checked => ?_⟩
  rcases checked with _ | _ | _
  · trivial
  · apply Follows.seq
    refine ⟨trivial, fun found => ?_⟩
    rcases found with _ | _ | record
    · trivial
    · trivial
    · show (jobFlow handlers).Follows (OptionT.run (if _ then _ else _)) _ _
      split
      · apply follows_ask trivial
        intro now
        split
        · exact finishChecked_follows rfl fun _ => rfl
        · apply Follows.seq
          apply Follows.attempt
          exact (reconcileByPoll_follows rfl).loose
      · trivial
  · trivial

theorem reconcilePage_follows (jobIds : List String) :
    (jobFlow handlers).Follows (reconcilePage jobIds).run anyhow phase := by
  induction jobIds generalizing phase with
  | nil => trivial
  | cons jobId rest ih =>
    unfold reconcilePage
    apply Follows.seq
    refine reconcileJob_follows.mono fun result after _ => ?_
    cases result with
    | none => trivial
    | some _ => exact ih

theorem reconcileAsyncRefunds_follows (pages : ℕ) :
    (jobFlow handlers).Follows (reconcileAsyncRefunds pages).run anyhow phase := by
  induction pages generalizing phase with
  | zero => trivial
  | succ pages ih =>
    unfold reconcileAsyncRefunds
    apply Follows.seq
    refine ⟨trivial, fun page => ?_⟩
    cases page with
    | none => trivial
    | some page =>
      apply Follows.seq
      refine (reconcilePage_follows page.keys).mono fun result after _ => ?_
      cases result with
      | none => trivial
      | some _ =>
        dsimp only
        split
        · trivial
        · exact ih

theorem finishByPoll_follows (read : phase.read = some (jobId, record)) :
    (jobFlow handlers).Follows (finishByPoll jobId record).run anyhow phase := by
  unfold finishByPoll
  apply Follows.seq
  refine pollMerchant_follows.mono fun polled after same => ?_
  subst same
  rcases polled with _ | ⟨response, body⟩
  · trivial
  · dsimp only
    split
    next reason proof _ paid =>
      apply Follows.seq
      refine (finish_follows read fun _ => rfl).mono fun terminal after claimed => ?_
      rcases terminal with _ | terminal
      · trivial
      · dsimp only
        split
        · trivial
        next done =>
          rw [not_not] at done
          subst done
          unfold enqueueRefund
          apply Follows.seq
          apply Follows.seq
          refine ⟨⟨_, claimed rfl, rfl, rfl, paid⟩, fun created => ?_⟩
          cases created with
          | none => trivial
          | some created =>
            apply Follows.seq
            refine ⟨trivial, fun published => ?_⟩
            cases published <;> trivial
    next reason _ _ _ =>
      apply Follows.seq
      refine (finish_follows read fun _ => rfl).mono fun result after _ => ?_
      cases result <;> trivial
    next =>
      apply Follows.seq
      have noted : (jobFlow handlers).Follows (noteDelivery jobId record (saysDelivered response body)).run
          anyhow after := by
        unfold noteDelivery
        split
        · apply Follows.seq
          apply Follows.attempt
          have unfailed : Outcome.delivered = .failed → Option.isSome (none : Option RefundReason) = true := nofun
          exact (finish_follows read unfailed).loose
        · trivial
      refine noted.mono fun result after _ => ?_
      cases result <;> trivial

theorem handleJobStatus_follows : (jobFlow handlers).Follows (handleJobStatus jobId).run anyhow phase := by
  unfold handleJobStatus
  apply Follows.seq
  refine ⟨trivial, fun found => ?_⟩
  rcases found with _ | _ | record
  · trivial
  · trivial
  · apply Follows.seq
    refine ⟨trivial, fun rejected => ?_⟩
    rcases rejected with _ | _ | response
    · trivial
    · apply Follows.seq
      apply Follows.attempt
      exact (finishByPoll_follows rfl).loose
    · trivial

end Finish

/-! ## Calls -/

/-- A call that pays no job back by these actions stays what it is. -/
def Action.aside : Action → Prop
  | .createRefund cause _ => cause = none
  | .releaseLock cause _ _ => cause = none
  | action => action.jobless

/-- The call is at work: its voucher stands, and no job of it is stored. -/
structure JobPhase.Serves (phase : JobPhase) (call : AsyncCall) : Prop where
  stored : phase.stored = false
  undone : phase.undone = false
  backed : call.paymentProof.isSome = true ∨ call.voucher.isSome = true
  own : ∀ delivery, call.channelDelivery = some delivery →
    phase.lockId = some delivery.lockId ∧ phase.vouched = some delivery

/-- The call is answered, and not by what the merchant delivered. -/
def JobPhase.Refuses (before : JobPhase) (result : Option Response) (after : JobPhase) : Prop :=
  after.lockId = before.lockId ∧ ∀ response, result = some response → response.delivers = false

/-- What the merchant delivered is handed on only when the voucher stands and no job is stored. -/
def JobPhase.Serving (before : JobPhase) (result : Option Response) (after : JobPhase) : Prop :=
  after.lockId = before.lockId ∧
    ∀ response, result = some response → response.delivers = true → after.undone = false ∧ after.stored = false

theorem JobPhase.Refuses.serving {before after : JobPhase} {result : Option Response}
    (refuses : before.Refuses result after) : before.Serving result after := by
  refine ⟨refuses.1, fun response same delivers => ?_⟩
  rw [refuses.2 response same] at delivers
  cases delivers

section Calls

variable (atWork : handlers)
include atWork

theorem aside_stays (action : Action) (aside : action.aside) :
    phase.allowed handlers action ∧ ∀ answer, phase.next action answer = phase := by
  cases action with
  | createRefund cause input =>
    cases (show cause = none from aside)
    exact ⟨atWork, fun _ => rfl⟩
  | releaseLock cause =>
    cases (show cause = none from aside)
    exact ⟨atWork, fun _ => rfl⟩
  | _ => exact jobless_stays _ aside

theorem Performs.aside_follows {α : Type} {program : Handler α} (performs : Performs Action.aside program) :
    (jobFlow handlers).Follows program.run (fun _ after => after = phase) phase :=
  Follows.of_performs (T := jobFlow handlers) (aside_stays atWork) performs

omit atWork in
theorem enqueueRefund_aside (input : EnqueueInput) : Performs Action.aside (enqueueRefund none input) := by
  unfold enqueueRefund
  apply Performs.bind
  · exact call_performs rfl
  · intro record
    apply Performs.bind
    · exact call_performs trivial
    · exact fun _ => .pure _

omit atWork in
theorem releaseLock_aside (call : AsyncCall) : Performs Action.aside call.releaseLock := by
  unfold AsyncCall.releaseLock
  split
  · exact call_performs rfl
  · exact .pure _

namespace AsyncCall

variable {call : AsyncCall}

omit atWork in
theorem voucher_delivery {delivery : ChannelDelivery} (voucher : call.voucher = some delivery) :
    call.channelDelivery = some delivery :=
  (filter_eq_some_iff.mp voucher).1

omit atWork in
theorem undoes (serves : phase.Serves call) {delivery : ChannelDelivery} (voucher : call.voucher = some delivery) :
    phase.Undoes delivery :=
  .inl ⟨(serves.own delivery (voucher_delivery voucher)).1, (serves.own delivery (voucher_delivery voucher)).2,
    serves.stored⟩

theorem rollbackVoucher_follows (serves : phase.Serves call) :
    (jobFlow handlers).Follows call.rollbackVoucher.run (fun _ after => phase.Continues after) phase := by
  unfold rollbackVoucher
  split
  · exact .refl phase
  next delivery voucher =>
    apply Follows.seq
    refine (rollback_follows (undoes serves voucher)).mono fun result after now => ?_
    rcases result with _ | _ | _
    · exact now.1
    · exact now.1
    · apply Follows.seq
      refine ⟨atWork, fun released => ?_⟩
      cases released with
      | none => exact now.1
      | some _ => exact now.1

theorem refundWithoutJobId_follows (proof : PaymentProof) :
    (jobFlow handlers).Follows (call.refundWithoutJobId proof).run phase.Refuses phase := by
  unfold refundWithoutJobId
  apply Follows.seq
  apply Follows.attempt
  refine (Performs.aside_follows atWork (enqueueRefund_aside _)).mono fun refunded after same => ?_
  subst same
  cases refunded with
  | none => exact ⟨rfl, by rintro _ ⟨⟩; simp⟩
  | some record =>
    apply Follows.seq
    have closing : Performs Action.aside call.releaseCloseLock := by
      unfold releaseCloseLock
      split
      · exact releaseLock_aside call
      · exact .pure _
    refine (Performs.aside_follows atWork closing).mono fun released after same => ?_
    subst same
    cases released with
    | none => exact ⟨rfl, nofun⟩
    | some _ => exact ⟨rfl, by rintro _ ⟨⟩; simp⟩

theorem withoutJobId_follows (serves : phase.Serves call) (body : MerchantBody) :
    (jobFlow handlers).Follows (call.withoutJobId body).run phase.Refuses phase := by
  unfold withoutJobId
  apply Follows.seq
  refine (rollbackVoucher_follows atWork serves).mono fun rolledBack after continues => ?_
  rcases rolledBack with _ | _ | _
  · exact ⟨continues.lockId, by rintro _ ⟨⟩⟩
  · exact ⟨continues.lockId, by rintro _ ⟨⟩; simp⟩
  · dsimp only
    cases call.paymentProof with
    | none => exact ⟨continues.lockId, by rintro _ ⟨⟩; rfl⟩
    | some proof =>
      refine (refundWithoutJobId_follows atWork proof).mono fun result last refuses => ?_
      exact ⟨refuses.1.trans continues.lockId, refuses.2⟩

theorem unpersisted_follows (serves : phase.Serves call) :
    (jobFlow handlers).Follows call.unpersisted.run phase.Refuses phase := by
  unfold unpersisted
  dsimp only
  split
  next delivery _ voucher =>
    apply Follows.seq
    refine (rollback_follows (undoes serves voucher)).mono fun result after now => ?_
    rcases result with _ | _ | _
    · exact ⟨now.1.lockId, nofun⟩
    · exact ⟨now.1.lockId, by rintro _ ⟨⟩; simp⟩
    · apply Follows.seq
      refine ⟨atWork, fun released => ?_⟩
      cases released with
      | none => exact ⟨now.1.lockId, nofun⟩
      | some _ => exact ⟨now.1.lockId, by rintro _ ⟨⟩; simp⟩
  next proof _ _ =>
    apply Follows.seq
    apply Follows.attempt
    have refunding : Performs Action.aside (do
        let _ ← enqueueRefund none (call.refundInput proof)
        call.releaseLock) := by
      apply Performs.bind
      · exact enqueueRefund_aside _
      · exact fun _ => releaseLock_aside call
    refine (Performs.aside_follows atWork refunding).mono fun refunded after same => ?_
    subst same
    cases refunded with
    | none => exact ⟨rfl, by rintro _ ⟨⟩; simp⟩
    | some _ => exact ⟨rfl, by rintro _ ⟨⟩; simp⟩
  · exact ⟨rfl, by rintro _ ⟨⟩; simp⟩

/-- An answer that is no job leaves the call at work; a job's is no delivery. -/
theorem handleAsyncJob_follows (serves : phase.Serves call) (body : MerchantBody) (merchantStatus : ℕ) :
    (jobFlow handlers).Follows (call.handleAsyncJob body merchantStatus).run
      (fun result after => after.lockId = phase.lockId ∧ (result = some none → after = phase) ∧
        ∀ response, result = some (some response) → response.delivers = false) phase := by
  have refusing {program : Handler Response} (follows : (jobFlow handlers).Follows program.run phase.Refuses phase) :
      (jobFlow handlers).Follows (some <$> program).run (fun result after => after.lockId = phase.lockId ∧
        (result = some none → after = phase) ∧
        ∀ response, result = some (some response) → response.delivers = false) phase := by
    apply Follows.seq
    refine follows.mono fun result after refuses => ?_
    cases result with
    | none => exact ⟨refuses.1, nofun, nofun⟩
    | some response => exact ⟨refuses.1, nofun, by rintro _ ⟨⟩; exact refuses.2 response rfl⟩
  unfold handleAsyncJob
  split
  · exact ⟨rfl, fun _ => rfl, nofun⟩
  · exact refusing (withoutJobId_follows atWork serves body)
  next jobId _ =>
    split
    · exact ⟨rfl, nofun, by rintro _ ⟨⟩; simp⟩
    next stellarAddress _ =>
      apply follows_ask trivial
      intro paidAt
      apply Follows.seq
      apply Follows.attempt
      refine ⟨⟨atWork, serves.stored, serves.undone, serves.backed, serves.own⟩, fun stored => ?_⟩
      cases stored with
      | none => exact refusing (unpersisted_follows atWork serves)
      | some _ =>
        dsimp only
        split
        · exact ⟨rfl, nofun, by rintro _ ⟨⟩; rfl⟩
        · exact ⟨rfl, nofun, nofun⟩

end AsyncCall

namespace MeteredCall

variable {call : MeteredCall} {pick : Pick}

omit atWork in
theorem letGo_aside (call : MeteredCall) : Performs Action.aside call.letGo := by
  unfold letGo
  exact .bind (.attempt (releaseLock_aside call.asyncCall)) fun _ => .pure _

variable {response : Response}

theorem refund_follows (reason : RefundReason) (proof : PaymentProof) (quiet : response.delivers = false) :
    (jobFlow handlers).Follows (call.refund reason proof response).run
      (fun result after => after = phase ∧ ∀ marked, result = some marked → marked.delivers = false) phase := by
  unfold refund
  apply follows_ask trivial
  intro orderId
  apply Follows.seq
  apply Follows.attempt
  refine (Performs.aside_follows atWork (enqueueRefund_aside _)).mono fun refunded after same => ?_
  subst same
  cases refunded with
  | none => exact ⟨rfl, by rintro _ ⟨⟩; exact quiet⟩
  | some record => exact ⟨rfl, by rintro _ ⟨⟩; exact quiet⟩

omit atWork in
theorem attemptRollback_follows {delivery : ChannelDelivery} (undoes : phase.Undoes delivery) :
    (jobFlow handlers).Follows (attemptRollback delivery).run (fun _ after => phase.Continues after) phase := by
  unfold attemptRollback
  apply Follows.seq
  apply Follows.attempt
  exact (rollback_follows undoes).mono fun _ _ now => now.1

theorem letGo_refuses {middle : JobPhase} (same : middle.lockId = phase.lockId) (quiet : response.delivers = false) :
    (jobFlow handlers).Follows (do
      call.letGo
      pure response : Handler Response).run phase.Refuses middle := by
  apply Follows.seq
  refine (Performs.aside_follows atWork (letGo_aside call)).mono fun released after kept => ?_
  subst kept
  cases released with
  | none => exact ⟨same, nofun⟩
  | some _ => exact ⟨same, by rintro _ ⟨⟩; exact quiet⟩

theorem refundAndLetGo_follows (reason : RefundReason) (proof : PaymentProof) (quiet : response.delivers = false) :
    (jobFlow handlers).Follows (do
      let marked ← call.refund reason proof response
      call.letGo
      pure marked : Handler Response).run phase.Refuses phase := by
  apply Follows.seq
  refine (refund_follows atWork reason proof quiet).mono fun marked after now => ?_
  obtain ⟨rfl, unmarked⟩ := now
  cases marked with
  | none => exact ⟨rfl, nofun⟩
  | some marked => exact letGo_refuses atWork rfl (unmarked marked rfl)

theorem limited_follows (serves : phase.Serves call.asyncCall) {rejected : Response}
    (quiet : rejected.delivers = false) :
    (jobFlow handlers).Follows (call.limited rejected).run phase.Refuses phase := by
  unfold limited
  split
  next delivery _ voucher =>
    apply Follows.seq
    refine (attemptRollback_follows (AsyncCall.undoes serves voucher)).mono fun rolledBack after continues => ?_
    cases rolledBack with
    | none => exact ⟨continues.lockId, nofun⟩
    | some rolledBack => exact letGo_refuses atWork continues.lockId quiet
  next proof _ _ => exact refundAndLetGo_follows atWork _ proof quiet
  · exact letGo_refuses atWork rfl quiet

theorem failed_follows (serves : phase.Serves call.asyncCall) (reason : RefundReason)
    (quiet : response.delivers = false) :
    (jobFlow handlers).Follows (call.failed reason response).run phase.Refuses phase := by
  unfold failed
  split
  next delivery _ voucher =>
    apply Follows.seq
    refine (attemptRollback_follows (AsyncCall.undoes serves voucher)).mono fun rolledBack after continues => ?_
    rcases rolledBack with _ | _ | _
    · exact ⟨continues.lockId, nofun⟩
    · exact ⟨continues.lockId, by rintro _ ⟨⟩; exact quiet⟩
    · exact letGo_refuses atWork continues.lockId quiet
  next proof _ _ =>
    split
    · exact ⟨rfl, by rintro _ ⟨⟩; exact quiet⟩
    · exact refundAndLetGo_follows atWork _ proof quiet
  · exact letGo_refuses atWork rfl quiet

theorem accepted_follows (serves : phase.Serves call.asyncCall) (body : MerchantBody) (merchantStatus : ℕ) :
    (jobFlow handlers).Follows (call.accepted body merchantStatus).run phase.Serving phase := by
  unfold accepted
  apply Follows.seq
  refine (AsyncCall.handleAsyncJob_follows atWork serves body merchantStatus).mono fun result after now => ?_
  obtain ⟨lockId, unchanged, quiet⟩ := now
  rcases result with _ | _ | response
  · exact ⟨lockId, nofun⟩
  · cases unchanged rfl
    have handing : Performs Action.aside (do
        call.asyncCall.releaseLock
        call.remember body.text
        pure { status := 200, body := .merchant body.text } : Handler Response) := by
      apply Performs.bind
      · exact releaseLock_aside call.asyncCall
      · intro _
        apply Performs.bind
        · unfold remember
          split
          · exact .pure _
          · exact performs_ask trivial
        · exact fun _ => .pure _
    refine (Performs.aside_follows atWork handing).mono fun result after same => ?_
    subst same
    exact ⟨rfl, fun _ _ _ => ⟨serves.undone, serves.stored⟩⟩
  · exact JobPhase.Refuses.serving ⟨lockId, by rintro _ ⟨⟩; exact quiet response rfl⟩

omit atWork in
theorem paysMerchant_jobless (payload : Option String) (action : Action) (pays : action.paysMerchant payload) :
    action.jobless := by
  rcases pays with calls | ⟨amount, rfl⟩
  · cases action <;> first | exact trivial | exact calls
  · trivial

theorem deliver_follows (serves : phase.Serves call.asyncCall) :
    (jobFlow handlers).Follows (call.deliver pick).run phase.Serving phase := by
  unfold deliver
  apply Follows.seq
  apply Follows.attempt
  have paying : Performs Action.jobless (payMerchantAndGetBody pick none call.route call.quote) :=
    (payMerchantAndGetBody_performs call.route call.quote).mono (paysMerchant_jobless none)
  refine (Performs.jobless_follows paying).mono fun payResult after same => ?_
  subst same
  dsimp only
  generalize Option.getD payResult _ = result
  cases result with
  | error reason status error =>
    exact (failed_follows atWork serves reason (Response.error_delivers status error)).mono
      fun _ _ refuses => JobPhase.Refuses.serving refuses
  | ok body merchantStatus => exact accepted_follows atWork serves body merchantStatus

theorem afterVerify_follows (serves : phase.Serves call.asyncCall) :
    (jobFlow handlers).Follows (call.afterVerify pick).run phase.Serving phase := by
  unfold afterVerify
  apply Follows.seq
  have looking : Performs Action.jobless call.cachedAnswer := by
    unfold cachedAnswer
    split
    · exact .pure _
    · exact .bind (call_performs trivial) fun _ => .pure _
  refine (Performs.jobless_follows looking).mono fun cached after same => ?_
  subst same
  rcases cached with _ | _ | cached
  · exact ⟨rfl, nofun⟩
  · apply Follows.seq
    have limiting : (jobFlow handlers).Follows (consumeRateLimitSlotOrReject call.route).run
        (fun result last => last = after ∧ ∀ rejected, result = some (some rejected) → rejected.delivers = false)
        after := by
      unfold consumeRateLimitSlotOrReject
      split
      · apply Follows.seq
        refine ⟨trivial, fun used => ?_⟩
        rcases used with _ | _ | _
        · exact ⟨rfl, nofun⟩
        · exact ⟨rfl, nofun⟩
        · exact ⟨rfl, by rintro _ ⟨⟩; simp⟩
      · exact ⟨rfl, nofun⟩
    refine limiting.mono fun result last now => ?_
    obtain ⟨rfl, quiet⟩ := now
    rcases result with _ | _ | rejected
    · exact ⟨rfl, nofun⟩
    · exact deliver_follows atWork serves
    · exact (limited_follows atWork serves (quiet rejected rfl)).mono
        fun _ _ refuses => JobPhase.Refuses.serving refuses
  · have handing : Performs Action.aside (do
        call.asyncCall.releaseLock
        pure { status := 200, body := .merchant cached } : Handler Response) :=
      .bind (releaseLock_aside call.asyncCall) fun _ => .pure _
    refine (Performs.aside_follows atWork handing).mono fun result last same => ?_
    subst same
    exact ⟨rfl, fun _ _ _ => ⟨serves.undone, serves.stored⟩⟩

end MeteredCall

namespace ChannelCall

variable {call : ChannelCall} {pick : Pick} {lockId : Uuid}

/-- An accepted credential is that of the call's delivery. -/
theorem verify_follows (own : phase.lockId = some lockId) (unused : phase.presented = false) :
    (jobFlow handlers).Follows (call.verify lockId).run (fun result after => after.lockId = some lockId ∧
      after.stored = phase.stored ∧ after.undone = phase.undone ∧
      ∀ previousAmount captured, result = some (some (previousAmount, .accepted captured)) →
        after.vouched = (call.metered lockId previousAmount).channelDelivery) phase := by
  unfold verify
  apply Follows.seq
  refine ⟨⟨atWork, own, unused⟩, fun acquired => ?_⟩
  rcases acquired with _ | _ | _
  · exact ⟨own, rfl, rfl, nofun⟩
  · exact ⟨own, rfl, rfl, nofun⟩
  · apply Follows.seq
    refine ⟨trivial, fun previous => ?_⟩
    cases previous with
    | none => exact ⟨own, rfl, rfl, nofun⟩
    | some previous =>
      apply Follows.seq
      refine ⟨⟨atWork, own, unused, _, rfl⟩, fun verified => ?_⟩
      rcases verified with _ | _ | captured
      · exact ⟨own, rfl, rfl, nofun⟩
      · exact ⟨own, rfl, rfl, nofun⟩
      · refine ⟨own, rfl, rfl, ?_⟩
        rintro _ _ ⟨⟩
        rfl

omit atWork in
/-- A close has a proof, and anything else is a voucher. -/
theorem backed (previousAmount : ℕ) : (call.metered lockId previousAmount).asyncCall.paymentProof.isSome = true ∨
      (call.metered lockId previousAmount).asyncCall.voucher.isSome = true := by
  simp only [metered, MeteredCall.asyncCall, AsyncCall.voucher]
  cases kind : call.credential.action with
  | voucher => exact .inr (by simp)
  | close => exact .inl (by simp)

omit atWork in
theorem release_aside : Performs Action.aside (call.release lockId) := call_performs rfl

theorem answer_follows (own : phase.lockId = some lockId) (unused : phase.presented = false)
    (stored : phase.stored = false) (undone : phase.undone = false) :
    (jobFlow handlers).Follows (call.answer pick lockId).run phase.Serving phase := by
  unfold answer
  apply Follows.seq
  apply Follows.attempt
  refine (verify_follows atWork own unused).mono fun result after now => ?_
  obtain ⟨lockId_, stored_, undone_, vouched⟩ := now
  have same : after.lockId = phase.lockId := lockId_.trans own.symm
  have releasing {α : Type} {program : Handler α} (performs : Performs Action.aside program) (error : String) :
      (jobFlow handlers).Follows (do
        let _ ← program
        pure (Response.error 402 error) : Handler Response).run phase.Serving after := by
    apply Follows.seq
    refine (Performs.aside_follows atWork performs).mono fun released last kept => ?_
    subst kept
    cases released with
    | none => exact ⟨same, nofun⟩
    | some _ => exact JobPhase.Refuses.serving ⟨same, by rintro _ ⟨⟩; simp⟩
  rcases result with _ | _ | ⟨previousAmount, _ | captured⟩
  · exact releasing (.attempt release_aside) _
  · exact JobPhase.Refuses.serving ⟨same, by rintro _ ⟨⟩; simp⟩
  · exact releasing release_aside _
  · cases captured with
    | false => exact JobPhase.Refuses.serving ⟨same, by rintro _ ⟨⟩; simp⟩
    | true =>
      have serves : after.Serves (call.metered lockId previousAmount).asyncCall := by
        refine ⟨stored_.trans stored, undone_.trans undone, backed previousAmount, ?_⟩
        rintro delivery ⟨⟩
        exact ⟨lockId_, vouched previousAmount true rfl⟩
      refine (MeteredCall.afterVerify_follows atWork serves).mono fun result last serving => ?_
      exact ⟨serving.1.trans same, serving.2⟩

theorem handle_follows (free : phase.lockId = none) :
    (jobFlow handlers).Follows (call.handle pick).run anyhow phase := by
  unfold handle
  have minting : (jobFlow handlers).allowed phase Action.randomUuid := ⟨atWork, free⟩
  apply follows_ask minting
  intro lockId
  apply Follows.seq
  refine (answer_follows atWork rfl rfl rfl rfl).mono fun result after serving => ?_
  cases result with
  | none => trivial
  | some response => exact ⟨⟨serving.1, serving.2 response rfl⟩, fun _ => trivial⟩

end ChannelCall

end Calls

/-! ## Everyone -/

theorem x402_jobless (request : X402Request) (pick : Pick) : Performs Action.jobless (request.handle pick) := by
  apply request.handle_nonce.performs
  intro phase action allowed
  cases action <;> first | exact trivial | exact allowed.2.elim id id

/-- A party that only looks after jobs. -/
def Party.followUp : Party → Prop
  | .jobStatus _ | .cron _ | .expiry _ | .idle => True
  | _ => False

theorem thread_follows {α : Type} {handler : Handler α} (follows : (jobFlow handlers).Follows handler.run anyhow phase) :
    (jobFlow handlers).Follows (Handler.thread handler) anyhow phase :=
  Follows.bind follows.loose

theorem program_follows (party : Party) (pick : Pick) (permitted : handlers ∨ party.followUp) :
    (jobFlow handlers).Follows (party.program pick) anyhow ({} : JobPhase) := by
  have atWork (calls : ¬ party.followUp) : handlers := permitted.resolve_right calls
  cases party with
  | x402 request =>
    exact thread_follows (Performs.jobless_follows (x402_jobless request pick)).loose
  | charge call =>
    apply thread_follows
    unfold MeteredCall.settledCharge
    split
    · trivial
    next proof settled =>
      have serves : JobPhase.Serves {} (MeteredCall.asyncCall { call with channelDelivery := none }) := by
        refine ⟨rfl, rfl, .inl ?_, nofun⟩
        show call.settledPayment.isSome = true
        rw [show call.settledPayment = some proof from settled]
        rfl
      exact (MeteredCall.afterVerify_follows (atWork id) serves).loose
  | channel call => exact thread_follows (ChannelCall.handle_follows (atWork id) rfl)
  | jobStatus jobId => exact thread_follows handleJobStatus_follows
  | cron pages => exact thread_follows (reconcileAsyncRefunds_follows pages)
  | expiry jobId => exact thread_follows (follows_ask trivial fun _ => trivial)
  | idle => trivial

end MppRouter.Proxy
