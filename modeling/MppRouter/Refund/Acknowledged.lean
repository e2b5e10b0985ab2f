import MppRouter.Core.Embed
import MppRouter.Core.Finish
import MppRouter.Refund.RecordLaws

/-! # An acknowledged confirmation is recorded

The confirm route answers 200 after its update, whether that update recorded anything or declined, and the signer takes
the answer for a confirmation: it marks the reservation in its own ledger. Both are right where every confirming update
finds the refund submitted under the lease it names, or confirmed before.
-/

namespace MppRouter.Refund

open Concurrent Machine Typestate

/-! ## The desk -/

/-- What the router and the signer do about a refund, and what they say of it. -/
inductive DeskAction where
  | router (action : Action)
  /-- `POST /admin/refunds/confirm` answers 200. -/
  | acknowledge
  /-- The signer's ledger marks the reservation confirmed. -/
  | markConfirmed
  deriving DecidableEq

@[reducible] def DeskAction.Answer : DeskAction → Type
  | .router action => action.Answer
  | .acknowledge | .markConfirmed => Unit

structure DeskWorld where
  router : World
  acknowledged : Bool := false
  marked : Bool := false

abbrev deskMachine : Machine where
  Action := DeskAction
  Answer := DeskAction.Answer
  Choice := Choice
  World := DeskWorld
  perform _ action choice world :=
    match action with
    | .router action => (perform action choice world.router).map fun done => (done.1, { world with router := done.2 })
    | .acknowledge => some ((), { world with acknowledged := true })
    | .markConfirmed => some ((), { world with marked := true })

abbrev Desk (α : Type) := Prog DeskAction DeskAction.Answer α

def lift {α : Type} (program : Signer α) : Desk α := program.embed .router fun _ answer => answer

def say (action : DeskAction) : Desk action.Answer := Prog.call action

/-- The confirm route, and its answer to whoever asked. -/
def handleConfirm (leaseId : String) : Desk Bool := do
  let accepted ← lift (confirmRoute leaseId)
  if accepted then do
    say .acknowledge
    pure true
  else pure false

/-- A signer run, with its mark. -/
def runSigner : Desk Unit := runRefundSigner lift handleConfirm (say .markConfirmed)

/-- Whoever talks to the router about the refund, under any lease. -/
inductive DeskParty where
  | idle
  | enqueue (refundId publicId : String) (input : EnqueueInput)
  | lease (leaseId : String)
  | complete (leaseId : String) (update : CompleteUpdate)
  | confirm (leaseId : String)
  | requeue (leaseId : String)
  | unpark (reason : Option String)
  | signer
  | closeLedger

def DeskParty.program : DeskParty → Desk Unit
  | .idle => pure ()
  | .enqueue refundId publicId input => lift (call (.enqueue refundId publicId input)).run
  | .lease leaseId => lift (call (.lease leaseId)).run
  -- The complete route takes no final state.
  | .complete leaseId update => if update.state = .confirmed then pure () else lift (completeRoute leaseId update).run
  | .confirm leaseId => do
    let _ ← handleConfirm leaseId
    pure ()
  | .requeue leaseId => lift (requeueRoute leaseId).run
  | .unpark reason => lift (call (.unpark reason)).run
  | .signer => runSigner
  | .closeLedger => lift (call .closeLedger)

def desk (router : World) (parties : ℕ → DeskParty) : deskMachine.Config :=
  ⟨{ router }, fun tid => (parties tid).program⟩

/-! ## The condition -/

def Confirmed (current : Option RefundRecord) : Prop := ∃ record ∈ current, record.state = .confirmed

/-- A confirming update under the lease finds something to record: the refund submitted under that lease, or confirmed
before. -/
def Recordable (leaseId : String) (current : Option RefundRecord) : Prop :=
  ∃ record ∈ current, record.state = .confirmed ∨ record.state = .submitted ∧ record.leaseId = some leaseId

/-- An update to confirmed leaves the refund confirmed exactly where it finds something to record. -/
theorem completeRefund_confirms_iff {leaseId : String} {update : CompleteUpdate} (confirms : update.state = .confirmed)
    (now : ℕ) (current : Option RefundRecord) :
    Confirmed ((completeRefund leaseId update now current).after current) ↔ Recordable leaseId current := by
  cases current with
  | none =>
    constructor
    · rintro ⟨record, ⟨⟩, _⟩
    · rintro ⟨record, ⟨⟩, _⟩
  | some record =>
    have recordable : Recordable leaseId (some record) ↔
        record.state = .confirmed ∨ record.state = .submitted ∧ record.leaseId = some leaseId := by
      constructor
      · rintro ⟨_, ⟨⟩, now⟩
        exact now
      · exact fun now => ⟨record, rfl, now⟩
    have confirmed : ∀ other : RefundRecord, Confirmed (some other) ↔ other.state = .confirmed := by
      intro other
      constructor
      · rintro ⟨_, ⟨⟩, now⟩
        exact now
      · exact fun now => ⟨other, rfl, now⟩
    rw [recordable]
    by_cases done : record.state = .confirmed
    · simp only [completeRefund, if_pos done]
      exact iff_of_true ((confirmed record).mpr done) (.inl done)
    by_cases held : record.lease.map Lease.id = some leaseId
    · by_cases submitted : record.state = .submitted
      · simp [completeRefund, confirms, held, submitted, confirmed, Completion.state, RefundRecord.leaseId]
      · simp [completeRefund, confirms, done, held, submitted, confirmed]
    · simp [completeRefund, done, held, confirmed, RefundRecord.leaseId]

/-- Every confirming update finds something to record. -/
def Recorded : deskMachine.Admits := fun _ action _ world =>
  match action with
  | .router (.complete leaseId update) => update.state = .confirmed → Recordable leaseId world.router.record
  | _ => True

instance (leaseId : String) (current : Option RefundRecord) : Decidable (Recordable leaseId current) :=
  inferInstanceAs (Decidable (∃ record ∈ current, _))

instance (tid : ℕ) (action : DeskAction) (choice : Choice) (world : DeskWorld) :
    Decidable (Recorded tid action choice world) :=
  match action with
  | .router (.complete leaseId update) =>
    inferInstanceAs (Decidable (update.state = .confirmed → Recordable leaseId world.router.record))
  | .router (.enqueue ..) | .router .pendingJob | .router .randomUuid | .router (.lease _) | .router .buildSignedRefund
  | .router .readRefund | .router (.send _) | .router (.getTransaction _) | .router (.requeue ..) | .router (.unpark _)
  | .router .closeLedger | .acknowledge | .markConfirmed => inferInstanceAs (Decidable True)

/-! ## What a thread does -/

/-- Whether a program of the router has performed a confirming update. -/
def confirmFlow : Typestate refundMachine where
  Phase := Bool
  allowed _ _ := True
  next confirming action _ :=
    match action with
    | .complete _ update => confirming || update.state == .confirmed
    | _ => confirming

/-- A thread acknowledges and marks only after a confirming update of its own. -/
def deskFlow : Typestate deskMachine where
  Phase := Bool
  allowed confirming action :=
    match action with
    | .router _ => True
    | .acknowledge | .markConfirmed => confirming = true
  next confirming action answer :=
    match action with
    | .router action => confirmFlow.next confirming action answer
    | .acknowledge | .markConfirmed => confirming

section Follows

variable {phase : Bool}

theorem lift_follows {α : Type} {program : Signer α} {post : α → Bool → Prop}
    (follows : confirmFlow.Follows program post phase) : deskFlow.Follows (lift program) post phase := by
  have embedded : deskFlow.Follows (lift program) (fun value after => ∃ inner, after = inner ∧ post value inner) phase :=
    Follows.embed (fun _ _ _ => trivial) (fun _ _ _ => rfl) follows
  apply embedded.mono
  rintro value _ ⟨after, rfl, now⟩
  exact now

/-- What the router does takes nothing back. -/
theorem router_follows {α : Type} (program : Signer α) :
    deskFlow.Follows (lift program) (fun _ after => phase = true → after = true) phase := by
  apply lift_follows
  induction program generalizing phase with
  | pure value => exact id
  | act action rest ih =>
    refine ⟨trivial, fun answer => (ih answer).mono fun _ after later earlier => later ?_⟩
    cases action with
    | complete leaseId update => exact Bool.or_eq_true_iff.mpr (.inl earlier)
    | _ => exact earlier

theorem confirmRoute_follows (leaseId : String) :
    deskFlow.Follows (lift (confirmRoute leaseId)) (fun accepted after => accepted = true → after = true) phase := by
  apply lift_follows
  simp only [confirmRoute, call, Prog.call_bind]
  refine ⟨trivial, fun current => ?_⟩
  beta_reduce
  split
  · rintro ⟨⟩
  split
  · rintro ⟨⟩
  split
  · refine ⟨trivial, fun result => ?_⟩
    beta_reduce
    split
    · rintro ⟨⟩
    · exact ⟨trivial, fun _ _ => Bool.or_true phase⟩
  · rintro ⟨⟩

theorem handleConfirm_follows (leaseId : String) :
    deskFlow.Follows (handleConfirm leaseId) (fun accepted after => accepted = true → after = true) phase := by
  apply Follows.bind
  apply (confirmRoute_follows leaseId).mono
  intro accepted after confirmed
  split
  next yes => exact ⟨confirmed yes, fun _ _ => confirmed yes⟩
  next => rintro ⟨⟩

/-- A program that returns a transaction has seen it confirmed. -/
abbrev Confirming (result : Option TxHash) (after : Bool) : Prop := result.isSome = true → after = true

theorem sendAndConfirm_follows (leaseId : String) (envelope : Envelope) :
    deskFlow.Follows (sendAndConfirm lift handleConfirm leaseId envelope) Confirming phase := by
  have confirmed : ∀ phase : Bool, deskFlow.Follows (do
      if ← lift (waitForTransaction envelope.hash pollAttempts) then do
        let confirmed ← handleConfirm leaseId
        pure (if confirmed then some envelope.hash else none)
      else pure none) Confirming phase := by
    intro phase
    apply Follows.bind
    apply (router_follows _).mono
    intro landed after _
    split
    · apply Follows.bind
      apply (handleConfirm_follows leaseId).mono
      intro accepted after confirmed returned
      cases accepted with
      | true => exact confirmed rfl
      | false => cases returned
    · rintro ⟨⟩
  apply Follows.bind
  apply (router_follows _).mono
  intro status after _
  cases status with
  | error code =>
    dsimp only
    split
    · rintro ⟨⟩
    · apply Follows.bind
      apply (router_follows _).mono
      rintro _ _ _ ⟨⟩
  | pending => exact confirmed after
  | duplicate => exact confirmed after
  | tryAgainLater => exact confirmed after

theorem executePending_follows (job : RefundRecord) :
    deskFlow.Follows (executePending lift handleConfirm job) Confirming phase := by
  apply Follows.bind
  apply (router_follows _).mono
  intro leaseId _ _
  apply Follows.bind
  apply (router_follows _).mono
  intro leased _ _
  cases leased with
  | none => rintro ⟨⟩
  | some leased =>
    dsimp only
    split
    · rintro ⟨⟩
    · apply Follows.bind
      apply (router_follows _).mono
      intro prepared _ _
      apply Follows.bind
      apply (router_follows _).mono
      intro submitted after _
      split
      · exact sendAndConfirm_follows leaseId prepared
      · rintro ⟨⟩

theorem confirmSubmitted_follows (job : RefundRecord) :
    deskFlow.Follows (confirmSubmitted lift handleConfirm job) Confirming phase := by
  unfold confirmSubmitted
  split
  next signedXdr refundTx lease _ _ _ =>
    split
    · rintro ⟨⟩
    · apply Follows.bind
      apply (router_follows _).mono
      intro existing _ _
      dsimp only
      split
      · apply Follows.bind
        apply (handleConfirm_follows lease.id).mono
        intro accepted after confirmed returned
        cases accepted with
        | true => exact confirmed rfl
        | false => cases returned
      · split
        · apply Follows.bind
          apply (router_follows _).mono
          intro requeued _ _
          split
          · exact executePending_follows _
          · rintro ⟨⟩
        · exact sendAndConfirm_follows lease.id signedXdr
  next => rintro ⟨⟩

theorem runSigner_follows : deskFlow.Follows runSigner anyhow phase := by
  apply Follows.bind
  apply (router_follows _).mono
  intro job _ _
  cases job with
  | none => trivial
  | some job =>
    have returned : ∀ phase : Bool, deskFlow.Follows (execute lift handleConfirm job) Confirming phase := by
      intro phase
      unfold execute
      split
      · exact confirmSubmitted_follows job
      · exact executePending_follows job
    apply Follows.bind
    apply (returned _).mono
    intro result after confirmed
    cases result with
    | none => trivial
    | some refundTx => exact ⟨confirmed rfl, fun _ => trivial⟩

theorem party_follows (party : DeskParty) : deskFlow.Follows party.program anyhow false := by
  have router : ∀ {α : Type} (program : Signer α), deskFlow.Follows (lift program) anyhow false :=
    fun program => (router_follows program).loose
  cases party with
  | idle => trivial
  | confirm leaseId =>
    apply Follows.bind
    exact (handleConfirm_follows leaseId).loose
  | complete leaseId update =>
    simp only [DeskParty.program]
    split_ifs
    · trivial
    · exact router _
  | signer => exact runSigner_follows
  | enqueue | lease | requeue | unpark | closeLedger => exact router _

end Follows

/-! ## The protocol -/

/-- What was acknowledged or marked is recorded. -/
def Truthful (world : DeskWorld) : Prop :=
  world.acknowledged = true ∨ world.marked = true → Confirmed world.router.record

def deskProtocol : Protocol deskMachine where
  Inv := Truthful
  Guar _ world after := Confirmed world.router.record → Confirmed after.router.record

/-- A confirmed refund stays confirmed, whatever is performed on it. -/
theorem Confirmed.performed {action : Action} {choice : Choice} {world after : World} {answer : action.Answer}
    (performed : perform action choice world = some (answer, after)) (confirmed : Confirmed world.record) :
    Confirmed after.record := by
  obtain ⟨ops, became⟩ := perform_record performed
  obtain ⟨record, found, state⟩ := confirmed
  rw [Option.mem_def.mp found, confirmed_stays state] at became
  exact ⟨record, became, state⟩

theorem desk_keeps (tid : ℕ) : deskFlow.Keeps deskProtocol Recorded tid fun (phase : Bool) world =>
    phase = true → Confirmed world.router.record := by
  constructor
  · intro phase other world after _ _ _ kept known isConfirmed
    exact kept (known isConfirmed)
  intro phase action allowed world truthful known choice answer after admitted performed
  cases action with
  | acknowledge =>
    cases performed
    exact ⟨fun _ => known allowed, id, known⟩
  | markConfirmed =>
    cases performed
    exact ⟨fun _ => known allowed, id, known⟩
  | router action =>
    obtain ⟨⟨answered, router⟩, done, same⟩ := Option.map_eq_some_iff.mp performed
    cases same
    have stays : Confirmed world.router.record → Confirmed router.record := Confirmed.performed done
    refine ⟨fun claimed => stays (truthful claimed), stays, fun confirming => ?_⟩
    cases action with
    | complete leaseId update =>
      rcases Bool.or_eq_true_iff.mp confirming with earlier | now
      · exact stays (known earlier)
      · have confirms : update.state = .confirmed := eq_of_beq now
        cases choice with
        | clock time =>
          cases done
          exact (completeRefund_confirms_iff confirms time world.router.record).mpr (admitted confirms)
        | _ => cases done
    | _ => exact stays (known confirming)

/-- Where every confirming update finds something to record, the confirm route has answered 200 only for a refund that
is recorded as confirmed, and so has the signer marked it. -/
theorem acknowledged_recorded {router : World} {parties : ℕ → DeskParty} {after : deskMachine.Config}
    (run : Run Recorded (desk router parties) after) (claimed : after.world.acknowledged = true ∨ after.world.marked = true) :
    Confirmed after.world.router.record := by
  have inv : deskProtocol.Inv (desk router parties).world := by
    rintro (acknowledged | marked)
    · cases acknowledged
    · cases marked
  have truthful : deskProtocol.Inv after.world :=
    sound desk_keeps false inv (fun _ confirming => by cases confirming) (fun tid => party_follows (parties tid)) run
  exact truthful claimed

/-! ## A refund that lands -/

/-- The refund of one payment is enqueued, two signer runs overlap, and the network closes a ledger. -/
def overlapping : ℕ → DeskParty
  | 0 => .enqueue "refund" "public" timedOut
  | 1 => .signer
  | 2 => .closeLedger
  | 3 => .signer
  | _ => .idle

theorem acknowledged_recorded_landed : ∃ after, Run Recorded (desk .initial overlapping) after ∧
    after.world.marked = true ∧ Confirmed after.world.router.record := by
  obtain ⟨after, run, marked⟩ := Config.exec_reaches Recorded (desk .initial overlapping)
    (landing 2 ++ [(1, .clock 1001), (1, .plain), (1, .plain)]) (fun world => world.marked) (by decide +kernel)
  exact ⟨after, run, marked, acknowledged_recorded run (.inr marked)⟩

/-- While the first signer confirms, the second one, whose node lags behind, sends the envelope again and parks the refund
on its rejection: the confirming update declines, the route answers 200, and the signer marks the refund that waits for
manual review. -/
theorem declined_acknowledged : ∃ after, Run (unrestricted deskMachine) (desk .initial overlapping) after ∧
    after.world.acknowledged = true ∧ after.world.marked = true ∧ ¬ Confirmed after.world.router.record := by
  obtain ⟨after, run, declined⟩ := Config.exec_reaches (unrestricted deskMachine) (desk .initial overlapping)
    (landing 2 ++ [(3, .plain), (3, .retained 0 0), (3, .sent (.error (some "txMalformed"))), (3, .plain), (3, .clock 1001),
      (1, .clock 1001), (1, .plain), (1, .plain)])
    (fun world => world.acknowledged && world.marked && world.router.record.all fun record => record.state == .manualReview)
    (by decide +kernel)
  simp only [Bool.and_eq_true] at declined
  obtain ⟨⟨acknowledged, marked⟩, parked⟩ := declined
  refine ⟨after, run, acknowledged, marked, ?_⟩
  rintro ⟨record, found, confirmed⟩
  rw [Option.mem_def.mp found] at parked
  have review : record.state = .manualReview := eq_of_beq parked
  rw [confirmed] at review
  cases review

end MppRouter.Refund
