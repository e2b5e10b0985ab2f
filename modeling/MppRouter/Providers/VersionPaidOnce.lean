import MppRouter.Providers.OwnerOnly
import MppRouter.Providers.Verify

/-! # A version is paid for once

The claim on a version stands while a payment signed under it may land. It is given back by an attempt that signed
nothing, or long after an attempt whose payment the wallet's own history does not show. Where a signed payment cannot
outlive that wait and the history is shown as it is, at most one payment of a version lands.
-/

namespace MppRouter.Providers.Onboarding

open Concurrent Machine Function Typestate List Option

variable (deployment : Deployment)

/-! ## The condition -/

/-- A payment is signed only where it expires within the time after which a claim may be released, and the history of
the wallet is shown as the ledger has it, searched for the address that the payments of the version go to. -/
def expiresInTime (_ : ℕ) (action : Action) (choice : Choice) (world : World) : Prop :=
  match action with
  | .sign call offers => ∀ offer ∈ choice.pick.bind (offers[·]?), ∀ state ∈ (world.claims call.version).1,
      world.now + offer.lifetime ≤ state.startedAt + RELEASE_AFTER_MS
  | .operationsPage version address _ => choice.page = none ∧
      ∀ authorisation ∈ world.authorisations, authorisation.version = version → authorisation.payTo = address
  | _ => True

/-- The signed payment has not been submitted, and can no longer be. -/
def World.Dead (world : World) (authorisation : Authorisation) : Prop :=
  authorisation.expiresAt ≤ world.now ∧
    ∀ operation ∈ world.operations, operation.authorisation ≠ some authorisation

/-- The payments of a version that landed. -/
def World.landings (world : World) (version : String) : List Operation :=
  world.operations.filter fun operation => operation.authorisation.any fun authorisation => authorisation.version == version

/-! ## What a call does -/

/-- The last reading of the clock and of a claim; the claim a call pays under, since when, and whether it has signed;
and how far it has walked the history of the wallet. -/
structure ClaimPhase where
  clock : ℕ := 0
  seen : Option (String × Option ClaimState × ℕ) := none
  paying : Option (String × ℕ × Bool) := none
  /-- The next page to read. -/
  walk : Option ℕ := none
  cleared : Bool := false

/-- The claim is one that a walk may release: it keeps a transaction, and its time is over. -/
def ClaimPhase.Overdue (phase : ClaimPhase) (version : String) (state : ClaimState) (entry : ℕ) : Prop :=
  phase.seen = some (version, some state, entry) ∧ (frozenHash state).isSome = true ∧
    state.startedAt + RELEASE_AFTER_MS ≤ phase.clock

/-- The commits that a call makes: it takes a free claim, keeps its outcome, gives it back unsigned, freezes a stalled
one, completes a frozen one, or releases one. -/
inductive MayCommit (phase : ClaimPhase) (version : String) (entry : ℕ) : Option ClaimState → Prop
  | acquire (seen : phase.seen = some (version, none, entry)) (free : phase.paying = none) :
      MayCommit phase version entry (some ⟨.inProgress, phase.clock, phase.clock, none⟩)
  | outcome {startedAt : ℕ} {signed : Bool} {state : ClaimState} (paying : phase.paying = some (version, startedAt, signed))
      (started : state.startedAt = startedAt) (ended : state.status ≠ .inProgress) :
      MayCommit phase version entry (some state)
  | unsigned {startedAt : ℕ} (paying : phase.paying = some (version, startedAt, false)) :
      MayCommit phase version entry none
  | stalled {state next : ClaimState} (seen : phase.seen = some (version, some state, entry)) (free : phase.paying = none)
      (started : next.startedAt = state.startedAt) (ended : next.status ≠ .inProgress) (unhashed : frozenHash next = none) :
      MayCommit phase version entry (some next)
  | completed {state next : ClaimState} (seen : phase.seen = some (version, some state, entry)) (free : phase.paying = none)
      (hashed : (frozenHash state).isSome = true) (started : next.startedAt = state.startedAt)
      (ended : next.status ≠ .inProgress) : MayCommit phase version entry (some next)
  | released {state : ClaimState} (overdue : phase.Overdue version state entry) (free : phase.paying = none)
      (cleared : phase.cleared = true) : MayCommit phase version entry none

def mayClaim (phase : ClaimPhase) : Action → Prop
  | .commitClaim version entry state => MayCommit phase version entry state
  | .sign call _ => ∃ startedAt, phase.paying = some (call.version, startedAt, false)
  | .operationsPage version _ cursor => phase.walk = cursor ∧ ∃ state entry, phase.Overdue version state entry
  | .land _ | .walletPays _ => phase.paying = none ∧ phase.walk = none ∧ phase.cleared = false
  | _ => True

/-- How a walk goes on after a page. -/
def ClaimPhase.walked (phase : ClaimPhase) (address : String) (since : ℕ) (page : OperationsPage) : ClaimPhase :=
  match scanRecords address since page.records with
  | some paid => { phase with cleared := !paid }
  | none => if page.records.length < PAGE_LIMIT then { phase with cleared := true } else { phase with walk := page.next }

def claimMove (phase : ClaimPhase) : (action : Action) → action.Answer → ClaimPhase
  | .clock, now => { phase with clock := now }
  | .readClaim version, current =>
    { phase with seen := some (version, current.1, current.2), walk := none, cleared := false }
  | .commitClaim version _ state, done =>
    let begins := state.any fun state => state.status == .inProgress
    { clock := phase.clock, paying := if begins && done then some (version, phase.clock, false) else none }
  | .sign _ _, signed => { phase with paying := phase.paying.map fun paying => (paying.1, paying.2.1, paying.2.2 || signed) }
  | .operationsPage _ address _, page =>
    match page, phase.seen with
    | some page, some (_, some state, _) => phase.walked address state.startedAt page
    | _, _ => phase
  | _, _ => phase

def claimFlow : Typestate (onboardingMachine deployment) := ⟨ClaimPhase, mayClaim, claimMove⟩

/-- What no claim, no payment and no walk is made by. -/
def Calm : Action → Prop
  | .commitClaim .. | .sign .. | .operationsPage .. | .readClaim _ | .land _ | .walletPays _ => False
  | _ => True

/-! ## What the judgements leave open -/

/-- A judgement of transfers is never one that a call may safely be retried after. -/
theorem judgeTransfers_final (txHash address : String) (transfers : List Transfer) :
    ∀ verdict ∈ judgeTransfers deployment txHash address transfers, canSafelyRetry verdict = false := by
  induction transfers with
  | nil =>
    rintro verdict ⟨⟩
  | cons transfer transfers ih =>
    unfold judgeTransfers
    split
    · exact ih
    split
    · rintro verdict ⟨⟩
      rfl
    split
    · rintro verdict ⟨⟩
      rfl
    · exact ih

theorem judgeOperations_final (txHash address : String) (operations : List TransactionOperation) :
    canSafelyRetry (judgeOperations deployment txHash address operations) = false := by
  induction operations with
  | nil => rfl
  | cons operation operations ih =>
    unfold judgeOperations
    split
    · rfl
    split
    next verdict judged => exact judgeTransfers_final deployment txHash address operation.transfers verdict judged
    · exact ih

section Follows

variable {deployment} {phase : ClaimPhase} {version address : String} {state : ClaimState} {entry : ℕ}

theorem calm_follows {α : Type} {program : Routine α} (performs : program.Performs Calm)
    {paying : Option (String × ℕ × Bool)} (now : phase.paying = paying) :
    (claimFlow deployment).Follows program (fun _ after => after.paying = paying) phase := by
  apply Follows.of_kept _ performs now
  intro action calm phase now
  cases action <;> first | exact ⟨trivial, fun _ => now⟩ | exact calm.elim

theorem walkHistory_follows {pages : ℕ} {cursor : Option ℕ} (overdue : phase.Overdue version state entry)
    (walk : phase.walk = cursor) :
    (claimFlow deployment).Follows (walkHistory version address state.startedAt pages cursor)
      (fun result after => (result = some false → after.cleared = true) ∧ after.Overdue version state entry ∧
        after.paying = phase.paying) phase := by
  induction pages generalizing cursor phase with
  | zero => exact ⟨fun paid => (by cases paid), overdue, rfl⟩
  | succ pages ih =>
    simp only [walkHistory, ask, Prog.call_bind]
    refine ⟨⟨walk, state, entry, overdue⟩, fun answer => ?_⟩
    cases answer with
    | none => exact ⟨fun paid => (by cases paid), overdue, rfl⟩
    | some page =>
      have moved : (claimFlow deployment).next phase (.operationsPage version address cursor) (some page) =
          phase.walked address state.startedAt page := by
        simp only [claimFlow, claimMove, overdue.1]
      rw [moved]
      simp only [ClaimPhase.walked]
      cases scanned : scanRecords address state.startedAt page.records with
      | some paid =>
        refine ⟨?_, overdue, rfl⟩
        rintro ⟨⟩
        rfl
      | none =>
        by_cases last : page.records.length < PAGE_LIMIT
        · simp only [if_pos last]
          exact ⟨fun _ => rfl, overdue, rfl⟩
        · simp only [if_neg last]
          cases following : page.next with
          | none => exact ⟨fun paid => (by cases paid), overdue, rfl⟩
          | some next =>
            have stands : ClaimPhase.Overdue { phase with walk := some next } version state entry := overdue
            exact ih stands rfl

theorem assertSettledToProvider_follows (txHash : String) :
    (claimFlow deployment).Follows (assertSettledToProvider deployment txHash address)
      (fun result after => after = phase ∧ canSafelyRetry result = false) phase := by
  simp only [assertSettledToProvider, ask, Prog.call_bind]
  refine ⟨trivial, fun answer => ?_⟩
  beta_reduce
  cases answer with
  | notFound => exact ⟨rfl, rfl⟩
  | unreadable => exact ⟨rfl, rfl⟩
  | operations operations => exact ⟨rfl, judgeOperations_final deployment txHash address operations⟩

/-- The phase of a call that pays under a claim, signed or not. -/
def ClaimPhase.signing (phase : ClaimPhase) (version : String) (startedAt : ℕ) (signed : Bool) : ClaimPhase :=
  { phase with paying := some (version, startedAt, signed) }

/-- A paid call ends unsigned or signed, and signed it has not failed for a mismatch. -/
def Ended (phase : ClaimPhase) (version : String) (startedAt : ℕ) (result : Executed) (after : ClaimPhase) : Prop :=
  ∃ signed, after = phase.signing version startedAt signed ∧ (signed = true → result ≠ .challengeMismatch)

section PaidCall

variable {startedAt : ℕ} {call : PaidCall} (own : call.version = version)
  (paying : phase.paying = some (version, startedAt, false))

include paying in
theorem Ended.unsigned (result : Executed) : Ended phase version startedAt result phase := by
  refine ⟨false, ?_, fun signed => by cases signed⟩
  unfold ClaimPhase.signing
  rw [← paying]

include own paying in
theorem signAndFetch_follows (offers : List Offer) :
    (claimFlow deployment).Follows (signAndFetch call offers) (Ended phase version startedAt) phase := by
  subst own
  simp only [signAndFetch, ask, Prog.call_bind]
  refine ⟨⟨startedAt, paying⟩, fun signed => ?_⟩
  have moved : (claimFlow deployment).next phase (.sign call offers) signed =
      phase.signing call.version startedAt signed := by
    simp only [claimFlow, claimMove, paying, map_some, Bool.false_or]
    rfl
  rw [moved]
  beta_reduce
  split
  · refine ⟨trivial, fun response => ?_⟩
    cases response with
    | none => exact ⟨signed, rfl, fun _ => by simp⟩
    | some response => exact ⟨signed, rfl, fun _ => by simp⟩
  · exact ⟨signed, rfl, fun _ => by simp⟩

include own paying in
theorem executePaidCall_follows :
    (claimFlow deployment).Follows (executePaidCall call) (Ended phase version startedAt) phase := by
  unfold executePaidCall
  split
  · simp only [payWithX402, ask, Prog.call_bind]
    refine ⟨trivial, fun first => ?_⟩
    beta_reduce
    split
    · exact Ended.unsigned paying _
    · exact Ended.unsigned paying _
    · exact Ended.unsigned paying _
    split
    · exact Ended.unsigned paying _
    · exact signAndFetch_follows own paying _
  · simp only [payWithMppx, ask, Prog.call_bind]
    refine ⟨trivial, fun first => ?_⟩
    beta_reduce
    split
    · exact Ended.unsigned paying _
    · exact Ended.unsigned paying _
    · exact Ended.unsigned paying _
    · exact Ended.unsigned paying _
    split
    · exact signAndFetch_follows own paying _
    · exact Ended.unsigned paying _

theorem judgeResponse_follows (response : Response) :
    (claimFlow deployment).Follows (judgeResponse deployment call response)
      (fun result after => after = phase ∧ canSafelyRetry result = false) phase := by
  unfold judgeResponse
  split
  · exact ⟨rfl, rfl⟩
  split
  · exact ⟨rfl, rfl⟩
  split
  · exact ⟨rfl, rfl⟩
  · exact assertSettledToProvider_follows _

include paying in
/-- The gate signs at most once, and a result after which the call may be retried comes before that. -/
theorem gateRealMoneyCall_follows (record : ProviderRecord) (spec : ProviderRouteSpec) (dialect : ChallengeDialect) :
    (claimFlow deployment).Follows (gateRealMoneyCall deployment version record spec dialect)
      (fun result after => ∃ signed, after = phase.signing version startedAt signed ∧
        (signed = true → ∀ outcome ∈ result, canSafelyRetry outcome = false)) phase := by
  have unsigned : phase = phase.signing version startedAt false := by
    unfold ClaimPhase.signing
    rw [← paying]
  have early : ∀ result : Option GateResult, ∃ signed, phase = phase.signing version startedAt signed ∧
      (signed = true → ∀ outcome ∈ result, canSafelyRetry outcome = false) :=
    fun result => ⟨false, unsigned, fun signed => by cases signed⟩
  unfold gateRealMoneyCall
  split
  next payout price refused stellar units =>
    simp only [ask, Prog.call_bind]
    refine ⟨trivial, fun budget => ?_⟩
    beta_reduce
    split
    · exact early none
    · exact early (some _)
    split
    · exact early (some _)
    · have own : PaidCall.version ⟨version, record, spec, dialect, payout.network, payout.payTo, price⟩ = version := rfl
      apply Follows.bind
      apply (executePaidCall_follows own paying).mono
      rintro executed _ ⟨signed, rfl, matched⟩
      split
      · exact ⟨signed, rfl, fun isSigned => absurd rfl (matched isSigned)⟩
      · refine ⟨signed, rfl, fun _ outcome same => ?_⟩
        cases same
        rfl
      · apply Follows.bind
        apply (judgeResponse_follows _).mono
        rintro result _ ⟨rfl, final⟩
        refine ⟨signed, rfl, fun _ outcome same => ?_⟩
        cases same
        exact final
  · exact early (some _)
  · exact early (some _)

end PaidCall

theorem commitEnded_paying (ended : state.status ≠ .inProgress) {done : Bool} :
    ((claimFlow deployment).next phase (.commitClaim version entry (some state)) done).paying = none := by
  simp [claimFlow, claimMove, ended]

theorem runClaimedPaidGate_follows (free : phase.paying = none) (record : ProviderRecord) (spec : ProviderRouteSpec)
    (dialect : ChallengeDialect) :
    (claimFlow deployment).Follows
      (runClaimedPaidGate version (gateRealMoneyCall deployment version record spec dialect))
      (fun _ after => after.paying = none) phase := by
  simp only [runClaimedPaidGate, ask, Prog.call_bind]
  refine ⟨trivial, fun current => ⟨trivial, fun now => ?_⟩⟩
  obtain ⟨value, entry⟩ := current
  cases value with
  | some state => exact free
  | none =>
    refine ⟨.acquire rfl free, fun acquired => ?_⟩
    cases acquired with
    | false => rfl
    | true =>
      simp only [payUnderClaim, ask, Prog.call_bind, if_true]
      have paying : ClaimPhase.paying { clock := now, paying := some (version, now, false) } =
        some (version, now, false) := rfl
      apply Follows.bind
      apply (gateRealMoneyCall_follows paying record spec dialect).mono
      rintro outcome _ ⟨signed, rfl, final⟩
      refine ⟨trivial, fun claimed => ?_⟩
      beta_reduce
      split
      next retry =>
        have isUnsigned : signed = false := by
          by_contra isSigned
          cases outcome with
          | none => cases retry
          | some result =>
            have isFinal := final (Bool.eq_true_of_not_eq_false isSigned) result rfl
            exact Bool.false_ne_true (isFinal.symm.trans retry)
        subst isUnsigned
        exact ⟨.unsigned rfl, fun _ => rfl⟩
      next =>
        refine ⟨trivial, fun later => ?_⟩
        cases outcome.getD (.failed .paidCallUncertain none) with
        | ok => exact ⟨.outcome rfl rfl (by simp), fun _ => commitEnded_paying (by simp)⟩
        | failed => exact ⟨.outcome rfl rfl (by simp), fun _ => commitEnded_paying (by simp)⟩

theorem releaseClaim_follows {allowRelease : Bool} (seen : phase.seen = some (version, some state, entry))
    (hashed : (frozenHash state).isSome = true) (free : phase.paying = none) (fresh : phase.walk = none) :
    (claimFlow deployment).Follows (releaseClaim deployment version address allowRelease (some state, entry) state)
      (fun _ after => after.paying = none) phase := by
  simp only [releaseClaim, ask, Prog.call_bind]
  -- The wait is a large numeral: the rest is kept folded, so that no comparison with it is computed.
  apply Follows.act trivial
  intro now
  split
  next late =>
    have overdue : ClaimPhase.Overdue { phase with clock := now } version state entry := ⟨seen, hashed, late.1⟩
    have walks : (claimFlow deployment).Follows
        (verifyWalletPaidProviderSince deployment version address state.startedAt)
        (fun result after => (result = some false → after.cleared = true ∧ after.Overdue version state entry) ∧
          after.paying = none) { phase with clock := now } := by
      unfold verifyWalletPaidProviderSince
      split
      · exact ⟨fun paid => (by cases paid), free⟩
      · apply (walkHistory_follows overdue fresh).mono
        rintro result after ⟨cleared, stands, same⟩
        exact ⟨fun paid => ⟨cleared paid, stands⟩, same.trans free⟩
    apply Follows.bind
    apply walks.mono
    rintro result after ⟨cleared, unpaid⟩
    split
    · obtain ⟨clear, stands⟩ := cleared rfl
      exact ⟨.released stands unpaid clear, fun _ => rfl⟩
    · exact unpaid
  · exact free

theorem settleUncertain_follows {allowRelease : Bool} (seen : phase.seen = some (version, some state, entry))
    (free : phase.paying = none) (fresh : phase.walk = none) :
    (claimFlow deployment).Follows (settleUncertain deployment version address allowRelease (some state, entry) state)
      (fun _ after => after.paying = none) phase := by
  unfold settleUncertain
  split
  · exact free
  next code txHash frozen =>
    have hashed : (frozenHash state).isSome = true := by
      rw [frozen]
      rfl
    apply Follows.bind
    apply (assertSettledToProvider_follows txHash).mono
    rintro verdict _ ⟨rfl, -⟩
    split
    · split
      · exact ⟨trivial, fun now => ⟨.completed seen free hashed rfl (by simp), fun _ => rfl⟩⟩
      · exact free
    · exact releaseClaim_follows seen hashed free fresh
    · exact free

theorem reconcileUncertainClaim_follows {allowRelease : Bool} (rounds : ℕ) (free : phase.paying = none) :
    (claimFlow deployment).Follows (reconcileUncertainClaim deployment version address allowRelease rounds)
      (fun _ after => after.paying = none) phase := by
  induction rounds generalizing phase with
  | zero => exact ⟨trivial, fun _ => free⟩
  | succ rounds ih =>
    simp only [reconcileUncertainClaim, ask, Prog.call_bind]
    refine ⟨trivial, fun current => ?_⟩
    obtain ⟨value, entry⟩ := current
    cases value with
    | none => exact free
    | some state =>
      refine ⟨trivial, fun now => ?_⟩
      beta_reduce
      split
      · exact ⟨.stalled rfl free rfl (by simp) rfl, fun _ => ih (commitEnded_paying (by simp))⟩
      split
      · exact settleUncertain_follows rfl free rfl
      · exact free

theorem readClaimState_follows (free : phase.paying = none) :
    (claimFlow deployment).Follows (readClaimState deployment version) (fun _ after => after.paying = none) phase := by
  unfold readClaimState
  split
  · exact ⟨trivial, fun current => ⟨trivial, fun now => free⟩⟩
  · exact free

/-! ### The handlers -/

theorem putIfUnchanged_performs (record : ProviderRecord) (change : ProviderRecord → ProviderRecord) :
    (putIfUnchanged record change).Performs Calm := by
  simp only [putIfUnchanged, ask, Prog.call_bind]
  refine ⟨trivial, fun latest => ?_⟩
  cases latest with
  | none => trivial
  | some latest =>
    dsimp only
    split
    · exact ⟨trivial, fun _ => trivial⟩
    · trivial

theorem noteFailure_performs (record : ProviderRecord) (verification : ProviderVerification) (attemptAt status : ℕ) :
    (noteFailure record verification attemptAt status).Performs Calm := by
  apply (putIfUnchanged_performs record _).bind
  intro done
  split <;> trivial

theorem submitAndPersistPartnerDiscovery_performs : submitAndPersistPartnerDiscovery.Performs Calm := by
  simp only [submitAndPersistPartnerDiscovery, ask, Prog.call_bind]
  refine ⟨trivial, fun found => ?_⟩
  cases found with
  | none => trivial
  | some record =>
    refine ⟨trivial, fun now => ?_⟩
    beta_reduce
    split
    · trivial
    split
    · trivial
    · refine ⟨trivial, fun discovery => ⟨trivial, fun later => ?_⟩⟩
      exact (putIfUnchanged_performs record _).bind fun _ => trivial

theorem publish_performs (record : ProviderRecord) (attemptAt : ℕ) (txHash : String) :
    (publish record attemptAt txHash).Performs Calm := by
  simp only [publish, ask, Prog.call_bind]
  refine ⟨trivial, fun publishedAt => ?_⟩
  apply (putIfUnchanged_performs record _).bind
  intro done
  split
  · exact submitAndPersistPartnerDiscovery_performs.bind fun _ => trivial
  · trivial

theorem settleFrozen_follows (rounds : ℕ) (record : ProviderRecord) (free : phase.paying = none) :
    (claimFlow deployment).Follows (settleFrozen deployment rounds version record) (fun _ after => after.paying = none)
      phase := by
  unfold settleFrozen
  split
  · apply Follows.bind
    apply (readClaimState_follows free).mono
    intro view after still
    split
    · apply Follows.bind
      apply (reconcileUncertainClaim_follows rounds still).mono
      intro outcome after unpaid
      split <;> exact unpaid
    · exact still
  · exact free

theorem runGates_follows (record : ProviderRecord) (spec : ProviderRouteSpec) (attemptAt : ℕ)
    (free : phase.paying = none) :
    (claimFlow deployment).Follows (runGates deployment version record spec attemptAt)
      (fun _ after => after.paying = none) phase := by
  simp only [runGates, ask, Prog.call_bind]
  refine ⟨trivial, fun probed => ?_⟩
  cases probed with
  | error code => exact calm_follows (noteFailure_performs ..) free
  | ok dialect =>
    dsimp only
    split
    · exact free
    · apply Follows.bind
      apply (runClaimedPaidGate_follows free record spec dialect).mono
      intro claimed after unpaid
      split
      · exact unpaid
      · exact unpaid
      · exact calm_follows (noteFailure_performs ..) unpaid
      · exact calm_follows (noteFailure_performs ..) unpaid
      · exact calm_follows (publish_performs ..) unpaid
      · exact calm_follows (publish_performs ..) unpaid

theorem handleProviderVerify_follows (rounds : ℕ) (free : phase.paying = none) :
    (claimFlow deployment).Follows (handleProviderVerify deployment rounds) (fun _ after => after.paying = none)
      phase := by
  simp only [handleProviderVerify, ask, Prog.call_bind]
  refine ⟨trivial, fun found => ?_⟩
  cases found with
  | none => exact free
  | some record =>
    dsimp only
    split
    · exact free
    · exact free
    split
    · exact free
    split
    · exact free
    · refine ⟨trivial, fun attemptAt => ?_⟩
      have still : ClaimPhase.paying { phase with clock := attemptAt } = none := free
      apply Follows.bind
      apply (settleFrozen_follows rounds record still).mono
      intro blocked after unpaid
      cases blocked with
      | some reply => exact unpaid
      | none => exact runGates_follows record _ _ unpaid

theorem handleProviderVerificationStatus_follows (rounds : ℕ) (free : phase.paying = none) :
    (claimFlow deployment).Follows (handleProviderVerificationStatus deployment rounds)
      (fun _ after => after.paying = none) phase := by
  simp only [handleProviderVerificationStatus, ask, Prog.call_bind]
  refine ⟨trivial, fun found => ?_⟩
  cases found with
  | none => exact free
  | some record =>
    apply Follows.bind
    apply (readClaimState_follows free).mono
    intro view after still
    split
    · split
      · split
        · apply Follows.bind
          apply (reconcileUncertainClaim_follows rounds still).mono
          intro outcome after unpaid
          apply Follows.bind
          exact (readClaimState_follows unpaid).mono fun _ _ now => now
        · exact still
      · exact still
    · exact still

theorem handleProviderRegister_performs (request : RegisterRequest) :
    (handleProviderRegister deployment request).Performs Calm := by
  have follows : (registerFlow deployment (.register request)).Follows (handleProviderRegister deployment request)
      anyhow {} := handleProviderRegister_follows rfl
  apply follows.performs
  intro phase action may
  cases action <;> trivial

theorem party_follows (party : Party) :
    (claimFlow deployment).Follows (party.program deployment) anyhow {} := by
  cases party with
  | idle => trivial
  | register request =>
    apply Follows.bind
    exact (calm_follows (handleProviderRegister_performs request) rfl).loose
  | verify rounds =>
    apply Follows.bind
    exact (handleProviderVerify_follows rounds rfl).loose
  | status rounds =>
    apply Follows.bind
    exact (handleProviderVerificationStatus_follows rounds rfl).loose
  | land id => exact ⟨⟨rfl, rfl, rfl⟩, fun _ => trivial⟩
  | walletPays address => exact ⟨⟨rfl, rfl, rfl⟩, fun _ => trivial⟩
  | tick elapsed => exact ⟨trivial, fun _ => trivial⟩

end Follows

/-! ## The protocol -/

/-- The payment was signed in the time of the claim, and expires before that may be released. -/
def Within (state : ClaimState) (authorisation : Authorisation) : Prop :=
  state.startedAt ≤ authorisation.signedAt ∧ authorisation.expiresAt ≤ state.startedAt + RELEASE_AFTER_MS

/-- The history of the wallet is in order, and shows each payment once, as it was signed. -/
structure History (world : World) : Prop where
  signed : ∀ operation ∈ world.operations, ∀ authorisation, operation.authorisation = some authorisation →
    authorisation ∈ world.authorisations ∧ operation.successful = true ∧
      operation.transfers.contains authorisation.payTo = true ∧
      ∃ createdAt, operation.createdAt = some createdAt ∧ authorisation.signedAt ≤ createdAt
  past : ∀ authorisation ∈ world.authorisations, authorisation.signedAt ≤ world.now
  dated : ∀ operation ∈ world.operations, ∀ createdAt, operation.createdAt = some createdAt → createdAt ≤ world.now
  ordered : world.operations.Pairwise fun newer older => ∀ later, newer.createdAt = some later →
    ∀ earlier, older.createdAt = some earlier → earlier ≤ later
  once : world.operations.Pairwise fun newer older =>
    ∀ authorisation, newer.authorisation = some authorisation → older.authorisation ≠ some authorisation

/-- At most one payment of a version is not dead, and none without a claim that stands for it. -/
structure Claimed (world : World) : Prop where
  free : ∀ version, (world.claims version).1 = none →
    ∀ authorisation ∈ world.authorisations, authorisation.version = version → world.Dead authorisation
  held : ∀ version tid, world.holder version = some tid →
    ∃ state, (world.claims version).1 = some state ∧ frozenHash state = none
  timed : ∀ version state, (world.claims version).1 = some state → ∀ authorisation ∈ world.authorisations,
    authorisation.version = version → world.Dead authorisation ∨ Within state authorisation
  single : ∀ first ∈ world.authorisations, ∀ second ∈ world.authorisations, first.version = second.version →
    ¬ world.Dead first → ¬ world.Dead second → first = second
  history : History world

/-- What a step may do to the claims and to the payments. -/
structure Pays (tid : ℕ) (before after : World) : Prop where
  time : before.now ≤ after.now
  claims : ∀ version, after.claims version = before.claims version ∨
    (before.claims version).2 < (after.claims version).2
  held : ∀ version other state, other ≠ tid → before.holder version = some other →
    (before.claims version).1 = some state → after.holder version = some other ∧
      ∃ next, (after.claims version).1 = some next ∧ next.startedAt = state.startedAt
  signs : ∀ authorisation ∈ after.authorisations, authorisation ∈ before.authorisations ∨
    before.holder authorisation.version = some tid
  lands : after.operations = before.operations ∨ ∃ operation, after.operations = operation :: before.operations ∧
    ∀ authorisation, operation.authorisation = some authorisation → before.landable authorisation

def claimProtocol : Protocol (onboardingMachine deployment) := ⟨Claimed, Pays⟩

/-- The payments of a version are all over. -/
def World.Over (world : World) (version : String) : Prop :=
  ∀ authorisation ∈ world.authorisations, authorisation.version = version → world.Dead authorisation

/-- The operations that pay under a version are among so many of the oldest. -/
def World.Left (world : World) (version : String) (count : ℕ) : Prop :=
  count ≤ world.operations.length ∧ ∀ operation ∈ world.operations, ∀ authorisation,
    operation.authorisation = some authorisation → authorisation.version = version → operation ∈ world.oldest count

/-- What a call knows of the world. What it has seen of a claim stands while the claim is at that entry. -/
structure Sees (tid : ℕ) (phase : ClaimPhase) (world : World) : Prop where
  clock : phase.clock ≤ world.now
  seen : ∀ version state entry, phase.seen = some (version, state, entry) →
    entry ≤ (world.claims version).2 ∧ ((world.claims version).2 = entry → (world.claims version).1 = state)
  paying : ∀ version startedAt signed, phase.paying = some (version, startedAt, signed) →
    world.holder version = some tid ∧ startedAt ≤ world.now ∧
      (∃ state, (world.claims version).1 = some state ∧ state.startedAt = startedAt) ∧
      (signed = false → world.Over version)
  walk : ∀ count, phase.walk = some count → ∃ version state entry, phase.Overdue version state entry ∧
    ((world.claims version).2 = entry → world.Left version count)
  cleared : phase.cleared = true → ∃ version state entry, phase.Overdue version state entry ∧
    ((world.claims version).2 = entry → world.Over version)

section Steps

variable {deployment} {tid : ℕ} {phase : ClaimPhase} {world after : World}

theorem Pays.dead (pays : Pays tid world after) {authorisation : Authorisation} (dead : world.Dead authorisation) :
    after.Dead authorisation := by
  obtain ⟨expired, never⟩ := dead
  refine ⟨expired.trans pays.time, fun operation member same => ?_⟩
  rcases pays.lands with still | ⟨landed, grown, landable⟩
  · rw [still] at member
    exact never operation member same
  · rw [grown] at member
    rcases mem_cons.mp member with rfl | earlier
    · exact absurd (landable authorisation same).1 (not_lt.mpr expired)
    · exact never operation earlier same

variable {version : String} {entry : ℕ}

/-- At the entry that was seen, the claim still has the state that was seen. -/
theorem Sees.stands {state : ClaimState} (sees : Sees tid phase world)
    (overdue : phase.Overdue version state entry) (same : (world.claims version).2 = entry) :
    (world.claims version).1 = some state := (sees.seen version (some state) entry overdue.1).2 same

/-- A claim that keeps a transaction is nobody's attempt. -/
theorem unheld_of_hashed {state : ClaimState} (claimed : Claimed world)
    (stood : (world.claims version).1 = some state) (hashed : (frozenHash state).isSome = true) :
    world.holder version = none := by
  by_contra holds
  obtain ⟨holder, held⟩ := ne_none_iff_exists'.mp holds
  obtain ⟨current, standing, unhashed⟩ := claimed.held version holder held
  obtain rfl := some.inj (stood.symm.trans standing)
  rw [unhashed] at hashed
  cases hashed

/-- Under a claim that may be released nobody signs, and what was signed has expired. -/
theorem overdue_over {state : ClaimState} (claimed : Claimed world)
    (sees : Sees tid phase world) (overdue : phase.Overdue version state entry)
    (same : (world.claims version).2 = entry) : world.holder version = none ∧
      ∀ authorisation ∈ world.authorisations, authorisation.version = version →
        authorisation.expiresAt ≤ world.now := by
  have stands := sees.stands overdue same
  constructor
  · exact unheld_of_hashed claimed stands overdue.2.1
  · intro authorisation member own
    rcases claimed.timed version state stands authorisation member own with dead | within
    · exact dead.1
    · exact within.2.trans (overdue.2.2.trans sees.clock)

variable {operation : Operation}

theorem oldest_grown {count : ℕ}
    (grown : after.operations = operation :: world.operations) (fits : count ≤ world.operations.length) :
    after.oldest count = world.oldest count := by
  unfold World.oldest
  rw [grown, length_cons, Nat.succ_sub fits, drop_succ_cons]

theorem Sees.stable (phase : ClaimPhase) : (claimProtocol deployment).Stable tid (Sees tid phase) := by
  intro other world after distinct claimed claimedAfter pays sees
  -- At the entry that was seen, nothing has happened to the claim.
  have unmoved : ∀ version state entry, phase.Overdue version state entry → (after.claims version).2 = entry →
      (world.claims version).2 = entry := by
    intro version state entry overdue now
    have earlier := (sees.seen version (some state) entry overdue.1).1
    rcases pays.claims version with same | moved
    · rw [← same]
      exact now
    · omega
  have signedBefore : ∀ version state entry, phase.Overdue version state entry → (world.claims version).2 = entry →
      ∀ authorisation ∈ after.authorisations, authorisation.version = version →
        authorisation ∈ world.authorisations := by
    rintro version state entry overdue same authorisation member rfl
    rcases pays.signs authorisation member with earlier | holds
    · exact earlier
    · rw [(overdue_over claimed sees overdue same).1] at holds
      cases holds
  constructor
  · exact sees.clock.trans pays.time
  · intro version state entry found
    obtain ⟨earlier, stands⟩ := sees.seen version state entry found
    rcases pays.claims version with same | moved
    · rw [same]
      exact ⟨earlier, stands⟩
    · exact ⟨earlier.trans moved.le, fun now => by omega⟩
  · intro version startedAt signed paying
    obtain ⟨holds, past, ⟨state, standing, started⟩, unsigned⟩ := sees.paying version startedAt signed paying
    obtain ⟨still, next, stands, sameStart⟩ := pays.held version tid state (Ne.symm distinct) holds standing
    refine ⟨still, past.trans pays.time, ⟨next, stands, sameStart.trans started⟩, ?_⟩
    rintro notSigned authorisation member rfl
    rcases pays.signs authorisation member with earlier | othersClaim
    · exact pays.dead (unsigned notSigned authorisation earlier rfl)
    · exact absurd (some.inj (othersClaim.symm.trans holds)) distinct
  · intro count walking
    obtain ⟨version, state, entry, overdue, left⟩ := sees.walk count walking
    refine ⟨version, state, entry, overdue, fun now => ?_⟩
    have same := unmoved version state entry overdue now
    obtain ⟨fits, among⟩ := left same
    rcases pays.lands with still | ⟨landed, grown, landable⟩
    · unfold World.Left World.oldest
      rw [still]
      exact ⟨fits, among⟩
    · refine ⟨?_, fun operation member authorisation signed own => ?_⟩
      · rw [grown]
        exact fits.trans (Nat.le_succ _)
      rw [oldest_grown grown fits]
      rcases mem_cons.mp (grown ▸ member) with rfl | earlier
      · have known := signedBefore version state entry overdue same authorisation
          (claimedAfter.history.signed operation member authorisation signed).1 own
        have expired := (overdue_over claimed sees overdue same).2 authorisation known own
        exact absurd (landable authorisation signed).1 (not_lt.mpr expired)
      · exact among operation earlier authorisation signed own
  · intro cleared
    obtain ⟨version, state, entry, overdue, lapsed⟩ := sees.cleared cleared
    refine ⟨version, state, entry, overdue, fun now authorisation member own => ?_⟩
    have same := unmoved version state entry overdue now
    exact pays.dead (lapsed same authorisation (signedBefore version state entry overdue same authorisation member own) own)

/-! ### Claims, signatures and payments left alone -/

/-- A step that touches no claim and no payment. -/
structure Untouched (before after : World) : Prop where
  time : before.now ≤ after.now
  claims : after.claims = before.claims
  holder : after.holder = before.holder
  authorisations : after.authorisations = before.authorisations
  operations : after.operations = before.operations

theorem Untouched.pays (untouched : Untouched world after) (tid : ℕ) : Pays tid world after where
  time := untouched.time
  claims version := .inl (congrFun untouched.claims version)
  held version _ state _ holds standing :=
    ⟨(congrFun untouched.holder version).trans holds, state,
      (congrArg Prod.fst (congrFun untouched.claims version)).trans standing, rfl⟩
  signs _ member := .inl (untouched.authorisations ▸ member)
  lands := .inl untouched.operations

theorem History.still (history : History world) (time : world.now ≤ after.now)
    (authorisations : after.authorisations = world.authorisations) (operations : after.operations = world.operations) :
    History after where
  signed := by
    rw [authorisations, operations]
    exact history.signed
  past authorisation member := (history.past authorisation (authorisations ▸ member)).trans time
  dated operation member createdAt dated :=
    (history.dated operation (operations ▸ member) createdAt dated).trans time
  ordered := by
    rw [operations]
    exact history.ordered
  once := by
    rw [operations]
    exact history.once

/-- Where no claim moves and nothing is signed, a payment is dead if it was. -/
theorem Claimed.still (claimed : Claimed world) (pays : Pays tid world after) (claims : after.claims = world.claims)
    (holder : after.holder = world.holder) (authorisations : after.authorisations = world.authorisations)
    (history : History after) : Claimed after where
  free version unclaimed authorisation member own := by
    rw [claims] at unclaimed
    exact pays.dead (claimed.free version unclaimed authorisation (authorisations ▸ member) own)
  held := by
    rw [claims, holder]
    exact claimed.held
  timed version state standing authorisation member own := by
    rw [claims] at standing
    exact (claimed.timed version state standing authorisation (authorisations ▸ member) own).imp_left pays.dead
  single first member second memberToo same alive aliveToo :=
    claimed.single first (authorisations ▸ member) second (authorisations ▸ memberToo) same
      (fun dead => alive (pays.dead dead)) fun dead => aliveToo (pays.dead dead)
  history := history

theorem Untouched.keeps (untouched : Untouched world after) (claimed : Claimed world) (tid : ℕ) :
    Claimed after ∧ Pays tid world after :=
  ⟨claimed.still (untouched.pays tid) untouched.claims untouched.holder untouched.authorisations
    (claimed.history.still untouched.time untouched.authorisations untouched.operations), untouched.pays tid⟩

/-- To a call, a step that touches nothing is as good as another call's. -/
theorem Untouched.sees (deployment : Deployment) (untouched : Untouched world after) (claimed : Claimed world)
    (sees : Sees tid phase world) : Sees tid phase after := by
  obtain ⟨kept, pays⟩ := untouched.keeps claimed (tid + 1)
  have stable : (claimProtocol deployment).Stable tid (Sees tid phase) := Sees.stable phase
  exact stable (tid + 1) world after (by omega) claimed kept pays sees

theorem Untouched.refl (world : World) : Untouched world world := ⟨le_rfl, rfl, rfl, rfl, rfl⟩

/-! ### The steps of a claim -/

/-- The clock is read again. -/
theorem Sees.clocked (sees : Sees tid phase world) : Sees tid { phase with clock := world.now } world where
  clock := le_rfl
  seen := sees.seen
  paying := sees.paying
  walk count walking := by
    obtain ⟨version, state, entry, ⟨seen, hashed, late⟩, left⟩ := sees.walk count walking
    exact ⟨version, state, entry, ⟨seen, hashed, late.trans sees.clock⟩, left⟩
  cleared clear := by
    obtain ⟨version, state, entry, ⟨seen, hashed, late⟩, lapsed⟩ := sees.cleared clear
    exact ⟨version, state, entry, ⟨seen, hashed, late.trans sees.clock⟩, lapsed⟩

/-- A claim is read. -/
theorem Sees.read (sees : Sees tid phase world) (version : String) :
    Sees tid { phase with seen := some (version, (world.claims version).1, (world.claims version).2), walk := none,
                          cleared := false } world where
  clock := sees.clock
  seen := by
    rintro _ _ _ ⟨⟩
    exact ⟨le_rfl, fun _ => rfl⟩
  paying := sees.paying
  walk := by rintro _ ⟨⟩
  cleared := by rintro ⟨⟩

/-- A call that has lost its claim, or given it back. -/
theorem Sees.ended (sees : Sees tid phase world) (time : world.now ≤ after.now) :
    Sees tid { clock := phase.clock } after where
  clock := sees.clock.trans time
  seen := by rintro _ _ _ ⟨⟩
  paying := by rintro _ _ _ ⟨⟩
  walk := by rintro _ ⟨⟩
  cleared := by rintro ⟨⟩

/-- The commit begins an attempt. -/
def begins (state : Option ClaimState) : Bool := state.any fun state => state.status == .inProgress

variable {state : Option ClaimState}

theorem claiming_holder : (world.claiming tid version state).holder version =
      if begins state then some tid else if world.holder version = some tid then none else world.holder version := by
  unfold World.claiming begins
  dsimp only
  split
  · exact update_self ..
  split
  · exact update_self ..
  · rfl

theorem claiming_holder_of_ne {other : String} (distinct : other ≠ version) :
    (world.claiming tid version state).holder other = world.holder other := by
  unfold World.claiming
  dsimp only
  split
  · exact update_of_ne distinct ..
  split
  · exact update_of_ne distinct ..
  · rfl

theorem claiming_claims : (world.claiming tid version state).claims version = (state, (world.claims version).2 + 1) :=
  update_self ..

theorem claiming_claims_of_ne {other : String} (distinct : other ≠ version) :
    (world.claiming tid version state).claims other = world.claims other := update_of_ne distinct ..

/-- What is asked of the new state of a claim, for it to stand for the payments of its version. -/
structure StandsFor (tid : ℕ) (world : World) (version : String) (state : Option ClaimState) : Prop where
  lapsed : state = none → world.Over version
  timed : ∀ next, state = some next → ∀ authorisation ∈ world.authorisations, authorisation.version = version →
    world.Dead authorisation ∨ Within next authorisation
  held : ∀ holder, (world.claiming tid version state).holder version = some holder →
    ∃ next, state = some next ∧ frozenHash next = none
  others : ∀ other standing, other ≠ tid → world.holder version = some other →
    (world.claims version).1 = some standing → begins state = false ∧
      ∃ next, state = some next ∧ next.startedAt = standing.startedAt

theorem claiming_keeps (claimed : Claimed world)
    (stands : StandsFor tid world version state) : Claimed (world.claiming tid version state) ∧
      Pays tid world (world.claiming tid version state) := by
  refine ⟨⟨?_, ?_, ?_, claimed.single, claimed.history.still le_rfl rfl rfl⟩, ⟨le_rfl, ?_, ?_, ?_, .inl rfl⟩⟩
  · intro other unclaimed authorisation member own
    by_cases same : other = version
    · subst same
      rw [claiming_claims] at unclaimed
      exact stands.lapsed unclaimed authorisation member own
    · rw [claiming_claims_of_ne same] at unclaimed
      exact claimed.free other unclaimed authorisation member own
  · intro other holder holds
    by_cases same : other = version
    · subst same
      rw [claiming_claims]
      exact stands.held holder holds
    · rw [claiming_holder_of_ne same] at holds
      rw [claiming_claims_of_ne same]
      exact claimed.held other holder holds
  · intro other next standing authorisation member own
    by_cases same : other = version
    · subst same
      rw [claiming_claims] at standing
      exact stands.timed next standing authorisation member own
    · rw [claiming_claims_of_ne same] at standing
      exact claimed.timed other next standing authorisation member own
  · intro other
    by_cases same : other = version
    · subst same
      right
      rw [claiming_claims]
      exact Nat.lt_succ_self _
    · exact .inl (claiming_claims_of_ne same)
  · intro other holder standing distinct holds stood
    by_cases same : other = version
    · subst same
      obtain ⟨ends, next, set, started⟩ := stands.others holder standing distinct holds stood
      rw [claiming_holder, claiming_claims, ends, holds]
      simp only [Bool.false_eq_true, if_false, some.injEq, distinct, true_and]
      exact ⟨next, set, started⟩
    · rw [claiming_holder_of_ne same, claiming_claims_of_ne same]
      exact ⟨holds, standing, stood, rfl⟩
  · exact fun authorisation member => .inl member

/-- Every commit that a call may make leaves a claim that stands for the payments of its version. -/
theorem MayCommit.stands (claimed : Claimed world)
    (sees : Sees tid phase world) (may : MayCommit phase version entry state)
    (current : (world.claims version).2 = entry) : StandsFor tid world version state := by
  cases may with
  | acquire seen free =>
    have unclaimed := (sees.seen version none entry seen).2 current
    have lapsed := claimed.free version unclaimed
    refine ⟨?_, ?_, ?_, ?_⟩
    · rintro ⟨⟩
    · exact fun next _ authorisation member own => .inl (lapsed authorisation member own)
    · exact fun holder _ => ⟨_, rfl, rfl⟩
    · exact fun other standing _ _ stood => by cases unclaimed.symm.trans stood
  | @outcome startedAt signed next paying started ended =>
    obtain ⟨holds, -, ⟨standing, stood, sameStart⟩, -⟩ := sees.paying version startedAt signed paying
    have lapsed : begins (some next) = false := by
      simp [begins, ended]
    refine ⟨?_, ?_, ?_, ?_⟩
    · rintro ⟨⟩
    · rintro _ ⟨⟩ authorisation member own
      unfold Within
      rw [started, ← sameStart]
      exact claimed.timed version standing stood authorisation member own
    · intro holder still
      rw [claiming_holder, lapsed, holds] at still
      simp at still
    · exact fun other _ distinct othersClaim => absurd (some.inj (othersClaim.symm.trans holds)) distinct
  | @unsigned startedAt paying =>
    obtain ⟨holds, -, -, unsigned⟩ := sees.paying version startedAt false paying
    refine ⟨fun _ => unsigned rfl, ?_, ?_, ?_⟩
    · rintro _ ⟨⟩
    · intro holder still
      rw [claiming_holder, holds] at still
      simp [begins] at still
    · exact fun other _ distinct othersClaim => absurd (some.inj (othersClaim.symm.trans holds)) distinct
  | @stalled standing next seen free started ended unhashed =>
    have stood := (sees.seen version (some standing) entry seen).2 current
    have lapsed : begins (some next) = false := by
      simp [begins, ended]
    refine ⟨?_, ?_, fun _ _ => ⟨next, rfl, unhashed⟩, ?_⟩
    · rintro ⟨⟩
    · rintro _ ⟨⟩ authorisation member own
      unfold Within
      rw [started]
      exact claimed.timed version standing stood authorisation member own
    · intro other found _ _ alsoStood
      obtain rfl := some.inj (stood.symm.trans alsoStood)
      exact ⟨lapsed, next, rfl, started⟩
  | @completed standing next seen free hashed started ended =>
    have stood := (sees.seen version (some standing) entry seen).2 current
    have unheld := unheld_of_hashed claimed stood hashed
    refine ⟨?_, ?_, ?_, ?_⟩
    · rintro ⟨⟩
    · rintro _ ⟨⟩ authorisation member own
      unfold Within
      rw [started]
      exact claimed.timed version standing stood authorisation member own
    · intro holder still
      rw [claiming_holder, unheld] at still
      simp [begins, ended] at still
    · intro other _ _ holds
      cases unheld.symm.trans holds
  | @released standing overdue free cleared =>
    have stood := sees.stands overdue current
    have unheld := unheld_of_hashed claimed stood overdue.2.1
    refine ⟨fun _ => ?_, ?_, ?_, ?_⟩
    · obtain ⟨_, _, _, ⟨seen, -, -⟩, lapsed⟩ := sees.cleared cleared
      cases overdue.1.symm.trans seen
      exact lapsed current
    · rintro _ ⟨⟩
    · intro holder still
      rw [claiming_holder, unheld] at still
      simp [begins] at still
    · intro other _ _ holds
      cases unheld.symm.trans holds

/-- A call that has taken a free claim pays under it, and nothing of its version can land. -/
theorem acquired_sees (claimed : Claimed world) (sees : Sees tid phase world)
    (seen : phase.seen = some (version, none, entry)) (current : (world.claims version).2 = entry) :
    Sees tid { clock := phase.clock, paying := some (version, phase.clock, false) }
      (world.claiming tid version (some ⟨.inProgress, phase.clock, phase.clock, none⟩)) where
  clock := sees.clock
  seen := by rintro _ _ _ ⟨⟩
  paying := by
    rintro _ _ _ ⟨⟩
    have unclaimed := (sees.seen version none entry seen).2 current
    refine ⟨?_, sees.clock, ⟨_, congrArg Prod.fst claiming_claims, rfl⟩, fun _ => claimed.free version unclaimed⟩
    rw [claiming_holder]
    rfl
  walk := by rintro _ ⟨⟩
  cleared := by rintro ⟨⟩

theorem commitClaim_keeps (claimed : Claimed world)
    (sees : Sees tid phase world) (may : MayCommit phase version entry state)
    (current : (world.claims version).2 = entry) : Claimed (world.claiming tid version state) ∧
      Pays tid world (world.claiming tid version state) ∧
      Sees tid (claimMove phase (.commitClaim version entry state) true) (world.claiming tid version state) := by
  obtain ⟨kept, pays⟩ := claiming_keeps claimed (may.stands claimed sees current)
  refine ⟨kept, pays, ?_⟩
  cases may with
  | acquire seen free => exact acquired_sees claimed sees seen current
  | outcome paying started ended | stalled seen free started ended unhashed | completed seen free hashed started ended =>
    simp only [claimMove, any_some, beq_false_of_ne ended, Bool.false_and]
    exact sees.ended le_rfl
  | unsigned paying | released overdue free cleared => exact sees.ended le_rfl

/-- A commit that comes too late leaves the world alone. -/
theorem commitClaim_late (sees : Sees tid phase world) (version : String) (entry : ℕ) (state : Option ClaimState) :
    Sees tid (claimMove phase (.commitClaim version entry state) false) world := by
  simp only [claimMove, Bool.and_false]
  exact sees.ended le_rfl

/-! ### The payments -/

/-- A payment is signed under a claim whose earlier payments are over. -/
theorem authorising_keeps {call : PaidCall} {offer : Offer} {startedAt : ℕ} (claimed : Claimed world)
    (sees : Sees tid phase world) (paying : phase.paying = some (call.version, startedAt, false))
    (expires : ∀ state, (world.claims call.version).1 = some state →
      world.now + offer.lifetime ≤ state.startedAt + RELEASE_AFTER_MS) :
    Claimed (world.authorising call offer) ∧ Pays tid world (world.authorising call offer) ∧
      Sees tid (phase.signing call.version startedAt true) (world.authorising call offer) := by
  obtain ⟨holds, past, ⟨standing, stood, started⟩, unsigned⟩ := sees.paying call.version startedAt false paying
  have lapsed := unsigned rfl
  refine ⟨⟨?_, claimed.held, ?_, ?_, ⟨?_, ?_, claimed.history.dated, claimed.history.ordered, claimed.history.once⟩⟩,
    ⟨le_rfl, fun _ => .inl rfl, fun _ _ state _ held stands => ⟨held, state, stands, rfl⟩, ?_, .inl rfl⟩,
    ⟨sees.clock, sees.seen, ?_, sees.walk, ?_⟩⟩
  · intro version unclaimed authorisation member own
    rcases mem_cons.mp member with rfl | earlier
    · subst own
      cases stood.symm.trans unclaimed
    · exact claimed.free version unclaimed authorisation earlier own
  · intro version state stands authorisation member own
    rcases mem_cons.mp member with rfl | earlier
    · subst own
      obtain rfl := some.inj (stood.symm.trans stands)
      right
      exact ⟨started.trans_le past, expires standing stood⟩
    · exact claimed.timed version state stands authorisation earlier own
  · intro first member second memberToo same alive aliveToo
    rcases mem_cons.mp member with rfl | earlier
    · rcases mem_cons.mp memberToo with rfl | earlierToo
      · rfl
      · exact absurd (lapsed second earlierToo same.symm) aliveToo
    · rcases mem_cons.mp memberToo with rfl | earlierToo
      · exact absurd (lapsed first earlier same) alive
      · exact claimed.single first earlier second earlierToo same alive aliveToo
  · intro operation member authorisation signed
    obtain ⟨known, rest⟩ := claimed.history.signed operation member authorisation signed
    exact ⟨mem_cons_of_mem _ known, rest⟩
  · intro authorisation member
    rcases mem_cons.mp member with rfl | earlier
    · exact le_rfl
    · exact claimed.history.past authorisation earlier
  · intro authorisation member
    rcases mem_cons.mp member with rfl | earlier
    · exact .inr holds
    · exact .inl earlier
  · rintro _ _ _ ⟨⟩
    exact ⟨holds, past, ⟨standing, stood, started⟩, fun signed => by cases signed⟩
  · intro cleared
    obtain ⟨version, state, entry, overdue, clear⟩ := sees.cleared cleared
    refine ⟨version, state, entry, overdue, fun now authorisation member own => ?_⟩
    rcases mem_cons.mp member with rfl | earlier
    · subst own
      rw [unheld_of_hashed claimed (sees.stands overdue now) overdue.2.1] at holds
      cases holds
    · exact clear now authorisation earlier own

/-- The history of the wallet grows, by a payment that may land or by one that was not signed here. -/
theorem operation_keeps (claimed : Claimed world) (sees : Sees tid phase world)
    (free : phase.paying = none ∧ phase.walk = none ∧ phase.cleared = false)
    (dated : operation.createdAt = some world.now)
    (lands : ∀ authorisation, operation.authorisation = some authorisation → world.landable authorisation ∧
      authorisation ∈ world.authorisations ∧ operation.successful = true ∧
        operation.transfers.contains authorisation.payTo = true) :
    Claimed { world with operations := operation :: world.operations } ∧
      Pays tid world { world with operations := operation :: world.operations } ∧
      Sees tid phase { world with operations := operation :: world.operations } := by
  have pays : Pays tid world { world with operations := operation :: world.operations } :=
    ⟨le_rfl, fun _ => .inl rfl, fun _ _ state _ held stands => ⟨held, state, stands, rfl⟩,
      fun _ member => .inl member, .inr ⟨operation, rfl, fun authorisation signed => (lands authorisation signed).1⟩⟩
  refine ⟨claimed.still pays rfl rfl rfl ⟨?_, claimed.history.past, ?_, ?_, ?_⟩, pays, sees.clock, sees.seen, ?_, ?_, ?_⟩
  · intro op member authorisation signed
    rcases mem_cons.mp member with rfl | earlier
    · obtain ⟨-, known, succeeds, shown⟩ := lands authorisation signed
      exact ⟨known, succeeds, shown, world.now, dated, claimed.history.past authorisation known⟩
    · exact claimed.history.signed op earlier authorisation signed
  · intro op member createdAt stamped
    rcases mem_cons.mp member with rfl | earlier
    · rw [some.inj (stamped.symm.trans dated)]
    · exact claimed.history.dated op earlier createdAt stamped
  · apply pairwise_cons.mpr
    refine ⟨fun older member later stamped earlier created => ?_, claimed.history.ordered⟩
    rw [some.inj (stamped.symm.trans dated)]
    exact claimed.history.dated older member earlier created
  · apply pairwise_cons.mpr
    exact ⟨fun older member authorisation signed => (lands authorisation signed).1.2 older member, claimed.history.once⟩
  · intro version startedAt signed paying
    cases free.1.symm.trans paying
  · intro count walking
    cases free.2.1.symm.trans walking
  · intro cleared
    cases free.2.2.symm.trans cleared

/-! ### The walk -/

/-- A page that decides nothing shows no transfer to the address. -/
theorem scanRecords_none {address : String} {since : ℕ} {records : List Operation}
    (scanned : scanRecords address since records = none) (member : operation ∈ records)
    (successful : operation.successful = true) : operation.transfers.contains address = false := by
  induction records with
  | nil => cases member
  | cons first records ih =>
    unfold scanRecords at scanned
    split at scanned
    · cases scanned
    split at scanned
    next failed =>
      rcases mem_cons.mp member with rfl | later
      · exact absurd (successful.symm.trans failed) Bool.noConfusion
      · exact ih scanned later
    split at scanned
    · cases scanned
    split at scanned
    · cases scanned
    next absent =>
      rcases mem_cons.mp member with rfl | later
      · exact Bool.eq_false_of_not_eq_true absent
      · exact ih scanned later

/-- A page that reaches an older operation leaves no later transfer to the address, on it or after it. -/
theorem scanRecords_unpaid {address : String} {since : ℕ} {records rest : List Operation}
    (scanned : scanRecords address since records = some false)
    (ordered : (records ++ rest).Pairwise fun newer older => ∀ later, newer.createdAt = some later →
      ∀ earlier, older.createdAt = some earlier → earlier ≤ later)
    (member : operation ∈ records ++ rest) (successful : operation.successful = true)
    (shown : operation.transfers.contains address = true) {createdAt : ℕ}
    (created : operation.createdAt = some createdAt) : createdAt < since := by
  induction records with
  | nil => cases scanned
  | cons first records ih =>
    obtain ⟨newest, ordered⟩ := pairwise_cons.mp ordered
    unfold scanRecords at scanned
    split at scanned
    next older =>
      obtain ⟨reached, stamped, before⟩ := (Option.any_eq_true _ _).mp older
      have before := of_decide_eq_true before
      rcases mem_cons.mp member with rfl | later
      · rw [some.inj (created.symm.trans stamped)]
        exact before
      · exact (newest operation later reached stamped createdAt created).trans_lt before
    split at scanned
    next failed =>
      rcases mem_cons.mp member with rfl | later
      · exact absurd (successful.symm.trans failed) Bool.noConfusion
      · exact ih scanned ordered later
    split at scanned
    · cases scanned
    split at scanned
    · cases scanned
    next absent =>
      rcases mem_cons.mp member with rfl | later
      · exact absurd shown absent
      · exact ih scanned ordered later

theorem oldest_rest {count : ℕ} (fits : count ≤ world.operations.length) :
    (world.oldest count).drop PAGE_LIMIT = world.oldest (count - PAGE_LIMIT) ∨ (world.oldest count).length < PAGE_LIMIT := by
  have length : (world.oldest count).length = count := by
    unfold World.oldest
    rw [length_drop]
    omega
  by_cases full : PAGE_LIMIT ≤ count
  · left
    unfold World.oldest
    have shift : world.operations.length - count + PAGE_LIMIT = world.operations.length - (count - PAGE_LIMIT) := by
      omega
    rw [drop_drop, shift]
  · right
    omega

/-- The claim is for payments that have expired, so that one which is not on the ledger is dead. -/
theorem over_of_unlisted {state : ClaimState} (claimed : Claimed world)
    (sees : Sees tid phase world) (overdue : phase.Overdue version state entry)
    (same : (world.claims version).2 = entry)
    (unlisted : ∀ operation ∈ world.operations, ∀ authorisation, operation.authorisation = some authorisation →
      authorisation ∈ world.authorisations → authorisation.version = version → Within state authorisation → False) :
    world.Over version := by
  intro authorisation member own
  rcases claimed.timed version state (sees.stands overdue same) authorisation member own with dead | within
  · exact dead
  · refine ⟨(overdue_over claimed sees overdue same).2 authorisation member own, fun operation listed signed => ?_⟩
    exact unlisted operation listed authorisation signed member own within

theorem operationsPage_sees {address : String} {cursor : Option ℕ} {state : ClaimState}
    (claimed : Claimed world) (sees : Sees tid phase world) (walking : phase.walk = cursor)
    (overdue : phase.Overdue version state entry)
    (pays : ∀ authorisation ∈ world.authorisations, authorisation.version = version → authorisation.payTo = address) :
    Sees tid (phase.walked address state.startedAt (world.page cursor)) world := by
  have left : (world.claims version).2 = entry → world.Left version (cursor.getD world.operations.length) := by
    intro same
    cases cursor with
    | none =>
      refine ⟨le_rfl, fun operation member _ _ _ => ?_⟩
      unfold World.oldest
      rw [getD_none, Nat.sub_self]
      exact member
    | some count =>
      obtain ⟨_, _, _, ⟨seen, -, -⟩, left⟩ := sees.walk count walking
      cases overdue.1.symm.trans seen
      exact left same
  -- A payment of the version that the ledger lists shows a transfer to the address.
  have transfers : ∀ operation ∈ world.operations, ∀ authorisation, operation.authorisation = some authorisation →
      authorisation.version = version → operation.successful = true ∧ operation.transfers.contains address = true := by
    intro operation member authorisation signed own
    obtain ⟨known, successful, shown, -⟩ := claimed.history.signed operation member authorisation signed
    rw [pays authorisation known own] at shown
    exact ⟨successful, shown⟩
  have page : (world.page cursor).records ++ (world.oldest (cursor.getD world.operations.length)).drop PAGE_LIMIT =
      world.oldest (cursor.getD world.operations.length) := take_append_drop ..
  have unlisted : ∀ operation ∈ (world.page cursor).records,
      scanRecords address state.startedAt (world.page cursor).records = none → operation ∈ world.operations →
      ∀ authorisation, operation.authorisation = some authorisation → authorisation.version ≠ version := by
    intro operation onPage scanned member authorisation signed own
    obtain ⟨successful, shown⟩ := transfers operation member authorisation signed own
    rw [scanRecords_none scanned onPage successful] at shown
    cases shown
  unfold ClaimPhase.walked
  cases scanned : scanRecords address state.startedAt (world.page cursor).records with
  | some paid =>
    refine ⟨sees.clock, sees.seen, sees.paying, sees.walk, fun unpaid => ⟨version, state, entry, overdue, fun same => ?_⟩⟩
    have notPaid : paid = false := by simpa using unpaid
    subst notPaid
    apply over_of_unlisted claimed sees overdue same
    intro operation member authorisation signed known own within
    obtain ⟨successful, shown⟩ := transfers operation member authorisation signed own
    obtain ⟨-, -, -, createdAt, created, later⟩ := claimed.history.signed operation member authorisation signed
    have ordered := claimed.history.ordered.sublist
      (drop_sublist (world.operations.length - cursor.getD world.operations.length) world.operations)
    have earlier := scanRecords_unpaid scanned (page.symm ▸ ordered)
      (page.symm ▸ (left same).2 operation member authorisation signed own) successful shown created
    exact absurd (within.1.trans later) (not_le.mpr earlier)
  | none =>
    by_cases short : (world.page cursor).records.length < PAGE_LIMIT
    · simp only [if_pos short]
      refine ⟨sees.clock, sees.seen, sees.paying, sees.walk, fun _ => ⟨version, state, entry, overdue, fun same => ?_⟩⟩
      apply over_of_unlisted claimed sees overdue same
      intro operation member authorisation signed known own within
      have listed := (left same).2 operation member authorisation signed own
      have whole : (world.page cursor).records = world.oldest (cursor.getD world.operations.length) := by
        apply take_of_length_le
        have length : (world.page cursor).records.length = min PAGE_LIMIT _ := length_take
        omega
      exact unlisted operation (whole ▸ listed) scanned member authorisation signed own
    · simp only [if_neg short]
      refine ⟨sees.clock, sees.seen, sees.paying, fun count walks => ?_, sees.cleared⟩
      obtain rfl : cursor.getD world.operations.length - PAGE_LIMIT = count := some.inj walks
      refine ⟨version, state, entry, overdue, fun same => ?_⟩
      obtain ⟨fits, among⟩ := left same
      refine ⟨(Nat.sub_le _ _).trans fits, fun operation member authorisation signed own => ?_⟩
      have rest := (oldest_rest fits).resolve_right (by
        have length : (world.page cursor).records.length ≤ _ := length_take_le' ..
        exact fun tooShort => short (length.trans_lt tooShort))
      rw [← rest]
      have listed := among operation member authorisation signed own
      rw [← page] at listed
      rcases mem_append.mp listed with onPage | later
      · exact absurd own (unlisted operation onPage scanned member authorisation signed)
      · exact later

theorem serving_untouched (call : PaidCall) (signed : Bool) (response : Response) :
    Untouched world (world.serving deployment call signed response) := by
  unfold World.serving
  split
  · split
    · exact ⟨le_rfl, rfl, rfl, rfl, rfl⟩
    · exact .refl world
  · exact .refl world

theorem calm_untouched {action : Action} {choice : Choice} {answer : action.Answer}
    (performed : (onboardingMachine deployment).perform tid action choice world = some (answer, after))
    (calm : Calm action) :
    Untouched world after := by
  cases action with
  | commitIdClaim version now =>
    simp only [perform] at performed
    split at performed
    · cases performed
      exact ⟨le_rfl, rfl, rfl, rfl, rfl⟩
    · cases performed
      exact .refl world
  | firstFetch call =>
    simp only [perform] at performed
    split at performed
    · cases performed
      exact serving_untouched call false _
    · cases performed
      exact .refl world
  | paidFetch call =>
    simp only [perform] at performed
    split at performed
    · cases performed
      exact serving_untouched call true _
    · cases performed
      exact .refl world
  | transaction hash =>
    simp only [perform] at performed
    split at performed
    · cases performed
      exact ⟨le_rfl, rfl, rfl, rfl, rfl⟩
    · cases performed
      exact .refl world
  | getRecord | putRegistration | putVerified =>
    cases performed
    exact ⟨le_rfl, rfl, rfl, rfl, rfl⟩
  | tick elapsed =>
    cases performed
    exact ⟨Nat.le_add_right _ _, rfl, rfl, rfl, rfl⟩
  | commitClaim | sign | operationsPage | readClaim | land | walletPays => exact calm.elim
  | goOn => cases performed
  | _ =>
    cases performed
    exact .refl world

theorem claims_keeps (tid : ℕ) :
    (claimFlow deployment).Keeps (claimProtocol deployment) expiresInTime tid (Sees tid) where
  stable := Sees.stable
  step := by
    intro phase action may world claimed sees choice answer after admitted performed
    cases action with
    | clock =>
      cases performed
      obtain ⟨kept, pays⟩ := (Untouched.refl world).keeps claimed tid
      exact ⟨kept, pays, sees.clocked⟩
    | readClaim version =>
      cases performed
      exact ⟨claimed, (Untouched.refl world).pays tid, sees.read version⟩
    | commitClaim version entry state =>
      simp only [perform] at performed
      split at performed
      next current =>
        cases performed
        exact commitClaim_keeps claimed sees may current
      next =>
        cases performed
        exact ⟨claimed, (Untouched.refl world).pays tid, commitClaim_late sees version entry state⟩
    | sign call offers =>
      obtain ⟨startedAt, paying⟩ := may
      simp only [perform] at performed
      split at performed
      next offer picked =>
        cases performed
        have moved : (claimFlow deployment).next phase (.sign call offers) true =
            phase.signing call.version startedAt true := by
          simp only [claimFlow, claimMove, paying, map_some, Bool.or_true]
          rfl
        have expires := fun state stood => admitted offer picked state stood
        have kept := authorising_keeps claimed sees paying expires
        rw [moved]
        exact kept
      next =>
        cases performed
        have moved : (claimFlow deployment).next phase (.sign call offers) false = phase := by
          simp only [claimFlow, claimMove, paying, map_some, Bool.or_false]
          rw [← paying]
          rfl
        refine ⟨claimed, (Untouched.refl world).pays tid, ?_⟩
        rw [moved]
        exact sees
    | operationsPage version address cursor =>
      obtain ⟨walking, state, entry, overdue⟩ := may
      obtain ⟨shown, pays⟩ := admitted
      simp only [perform, shown] at performed
      split at performed
      · cases performed
        exact ⟨claimed, (Untouched.refl world).pays tid, sees⟩
      · cases performed
        have moved : (claimFlow deployment).next phase (.operationsPage version address cursor)
            (some (world.page cursor)) = phase.walked address state.startedAt (world.page cursor) := by
          simp only [claimFlow, claimMove, overdue.1]
        refine ⟨claimed, (Untouched.refl world).pays tid, ?_⟩
        rw [getD_none, moved]
        exact operationsPage_sees claimed sees walking overdue pays
    | land id =>
      simp only [perform] at performed
      split at performed
      next authorisation found =>
        split at performed
        next landable =>
          cases performed
          apply operation_keeps claimed sees may rfl
          rintro _ ⟨⟩
          exact ⟨landable, mem_of_find?_eq_some found, rfl, by simp⟩
        next => cases performed
      next => cases performed
    | walletPays address =>
      cases performed
      apply operation_keeps claimed sees may rfl
      rintro _ ⟨⟩
    | _ =>
      have untouched := calm_untouched performed (by trivial)
      obtain ⟨kept, pays⟩ := untouched.keeps claimed tid
      exact ⟨kept, pays, untouched.sees deployment claimed sees⟩

end Steps

/-! ## The calls together -/

/-- Nothing has been signed for a version, and the history of the wallet is in order. -/
structure Unsigned (world : World) : Prop where
  authorisations : world.authorisations = []
  holder : ∀ version, world.holder version = none
  operations : ∀ operation ∈ world.operations, operation.authorisation = none
  dated : ∀ operation ∈ world.operations, ∀ createdAt, operation.createdAt = some createdAt → createdAt ≤ world.now
  ordered : world.operations.Pairwise fun newer older => ∀ later, newer.createdAt = some later →
    ∀ earlier, older.createdAt = some earlier → earlier ≤ later

theorem Unsigned.claimed {world : World} (unsigned : Unsigned world) : Claimed world := by
  refine ⟨?_, ?_, ?_, ?_, ⟨?_, ?_, unsigned.dated, unsigned.ordered, ?_⟩⟩
  · intro _ _ authorisation member
    rw [unsigned.authorisations] at member
    cases member
  · intro version tid held
    cases (unsigned.holder version).symm.trans held
  · intro _ _ _ authorisation member
    rw [unsigned.authorisations] at member
    cases member
  · intro first member
    rw [unsigned.authorisations] at member
    cases member
  · intro operation member authorisation signed
    cases (unsigned.operations operation member).symm.trans signed
  · intro authorisation member
    rw [unsigned.authorisations] at member
    cases member
  · apply pairwise_of_forall_mem_list
    intro newer member older _ authorisation signed
    cases (unsigned.operations newer member).symm.trans signed

/-- The payments of one version that landed are the same payment, which is listed once. -/
theorem Claimed.landings {world : World} (claimed : Claimed world) (version : String) :
    (world.landings version).length ≤ 1 := by
  have once := claimed.history.once.filter fun operation =>
    operation.authorisation.any fun authorisation => authorisation.version == version
  have landed : ∀ operation ∈ world.landings version, ∃ authorisation ∈ world.authorisations,
      operation.authorisation = some authorisation ∧ authorisation.version = version ∧ ¬ world.Dead authorisation := by
    intro operation member
    obtain ⟨listed, own⟩ := mem_filter.mp member
    obtain ⟨authorisation, signed, same⟩ := (Option.any_eq_true _ _).mp own
    have known := (claimed.history.signed operation listed authorisation signed).1
    exact ⟨authorisation, known, signed, eq_of_beq same, fun dead => dead.2 operation listed signed⟩
  match listed : world.landings version with
  | [] => exact Nat.zero_le _
  | [_] => exact le_rfl
  | newer :: older :: rest =>
    rw [listed] at landed
    obtain ⟨first, known, signed, own, alive⟩ := landed newer mem_cons_self
    obtain ⟨second, knownToo, signedToo, ownToo, aliveToo⟩ := landed older (mem_cons_of_mem _ mem_cons_self)
    obtain rfl := claimed.single first known second knownToo (own.trans ownToo.symm) alive aliveToo
    unfold World.landings at listed
    rw [listed] at once
    exact absurd signedToo ((pairwise_cons.mp once).1 older mem_cons_self first signed)

/-- Where every payment expires in time and the history of the wallet is shown as it is, at most one payment of a
version lands, and a claim is deleted only where no payment signed under it can land any more. -/
theorem version_paid_once {parties : ℕ → Party} {world : World} (unsigned : Unsigned world)
    {after : (onboardingMachine deployment).Config}
    (run : Run expiresInTime (onboarding deployment world parties) after) (version : String) :
    (after.world.landings version).length ≤ 1 ∧
      ((after.world.claims version).1 = none → ∀ authorisation ∈ after.world.authorisations,
        authorisation.version = version → ¬ after.world.landable authorisation) := by
  have inv : (claimProtocol deployment).Inv (onboarding deployment world parties).world := unsigned.claimed
  have sees : ∀ tid, Sees tid {} world := fun tid =>
    ⟨Nat.zero_le _, (by rintro _ _ _ ⟨⟩), (by rintro _ _ _ ⟨⟩), (by rintro _ ⟨⟩), (by rintro ⟨⟩)⟩
  have claimed := sound_each claims_keeps (fun _ => {}) inv sees (fun tid => party_follows (parties tid)) run
  refine ⟨claimed.landings version, fun free authorisation member own landable => ?_⟩
  exact absurd landable.1 (not_lt.mpr (claimed.free version free authorisation member own).1)

/-! ## Runs -/

instance (tid : ℕ) (action : Action) (choice : Choice) (world : World) :
    Decidable (expiresInTime tid action choice world) := by
  unfold expiresInTime
  split <;> infer_instance

/-- A provider is registered and verified, and verified again half an hour later; its payments are submitted. -/
def twoVerifications : ℕ → Party
  | 0 => .register { registration := acme, declaredType := some .x402PayTo }
  | 1 => .verify 1
  | 2 => .tick RELEASE_AFTER_MS
  | 3 => .verify 1
  | 4 => .land 0
  | 5 => .land 1
  | _ => .idle

/-- The endpoint asks for the registered price. -/
def challenging (lifetime : ℕ) : Choice :=
  { first := .challenge (some [{ network := "stellar:p", payTo := "G", amount := some 100000, lifetime }]) }

/-- A call moves so often, and the environment has nothing to say. -/
def moving (tid count : ℕ) : List (ℕ × Choice) := List.replicate count (tid, ({} : Choice))

/-- A call is paid: up to the first answer, its signature, and the answer to that. -/
def payingMoves (tid before lifetime : ℕ) (response : Response) : List (ℕ × Choice) :=
  moving tid before ++ [(tid, challenging lifetime), (tid, {}), (tid, { response := some response })]

def paysFromWallet : List TransactionOperation := [{ transfers := [⟨some "", some "G"⟩] }]

/-- The claim of an unclear payment is released when the payment has expired, and a second one lands. -/
theorem oneVerification_paid_once : ∃ after,
    Run expiresInTime (onboarding oneDesk World.start twoVerifications) after ∧
      (∃ record, after.world.record = some record ∧ record.status = .published) ∧
      after.world.authorisations.length = 2 ∧ (after.world.landings "").length = 1 ∧
      ((after.world.landings "").length ≤ 1 ∧
        ((after.world.claims "").1 = none → ∀ authorisation ∈ after.world.authorisations,
          authorisation.version = "" → ¬ after.world.landable authorisation)) := by
  obtain ⟨after, run, passed⟩ := Config.exec_reaches expiresInTime
    (onboarding oneDesk World.start twoVerifications)
    (moving 0 9 ++ payingMoves 1 9 60000 { status := 500, txHash := some "h" } ++ moving 1 5 ++ moving 2 1 ++
      payingMoves 3 15 60000 { txHash := some "h" } ++ [(3, { transaction := .operations paysFromWallet })] ++
      moving 3 6 ++ moving 5 1)
    (fun world => (world.record.any fun record => record.status == .published) && (world.authorisations.length == 2 &&
      (world.landings "").length == 1)) (by decide +kernel)
  simp only [Bool.and_eq_true, Option.any_eq_true, beq_iff_eq] at passed
  have unsigned : Unsigned World.start :=
    ⟨rfl, fun _ => rfl, fun _ member => absurd member not_mem_nil, fun _ member => absurd member not_mem_nil,
      .nil⟩
  exact ⟨after, run, passed.1, passed.2.1, passed.2.2, version_paid_once oneDesk unsigned run ""⟩

/-- A payment that may be submitted for two hours, and a receipt that names a transaction that never was: the claim is
released after half an hour, a second payment is signed, and both land. -/
theorem version_paid_twice : ∃ after,
    Run (unrestricted (onboardingMachine oneDesk)) (onboarding oneDesk World.start twoVerifications) after ∧
      (after.world.landings "").length = 2 := by
  obtain ⟨after, run, passed⟩ := Config.exec_reaches (unrestricted (onboardingMachine oneDesk))
    (onboarding oneDesk World.start twoVerifications)
    (moving 0 9 ++ payingMoves 1 9 7200000 { status := 500, txHash := some "h" } ++ moving 1 5 ++ moving 2 1 ++
      payingMoves 3 15 7200000 {} ++ moving 4 1 ++ moving 5 1)
    (fun world => (world.landings "").length == 2) (by decide +kernel)
  exact ⟨after, run, eq_of_beq passed⟩

end MppRouter.Providers.Onboarding
