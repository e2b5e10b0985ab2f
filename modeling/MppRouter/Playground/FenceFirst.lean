import MppRouter.Playground.ChannelExact
import MppRouter.Playground.SettleFlow

/-! # Fence first

A paid call whose voucher is not stored gives its charge back only after it has fenced the channel, so the
capacity that it frees cannot be spent again. A call that was superseded takes back its own charge, and with
it the watermark that it read before its voucher was verified: when that reading was stale, the watermark
falls below the amount of a call that was paid meanwhile, and nothing fences the channel.
-/

namespace MppRouter.Playground.Channel

open Concurrent Machine List
open Mpp (cumulativeAmount rollbackCumulative_some)

/-! ## What is claimed, and when it holds -/

/-- While no stored voucher covers a paid call and the channel is not fenced, no step lowers the watermark below
the amount of the call. -/
def FenceFirst (before after : SettleWorld) : Prop :=
  ∀ tid ∈ before.paid, ∀ amount, (tid, amount) ∈ before.accepted → ¬ before.channel.Covers amount →
    before.channel.fenced = false → amount ≤ before.channel.watermark → amount ≤ after.channel.watermark

/-- Unless the channel is fenced, a rollback that takes effect restores no less than its voucher replaced. -/
def restoring (tid : ℕ) (action : SettleAction) (world : SettleWorld) : Bool :=
  match action with
  | .call (.store (.rollback voucher)) =>
    world.channel.fenced ∨ voucher.rollback world.channel.cumulative = none ∨
      world.channel.standing.all fun acceptance => acceptance.owner = tid → acceptance.before ≤ voucher.previousAmount
  | _ => true

abbrev Restoring (verifier : Verifier) : (settleMachine verifier).Admits :=
  fun tid action _ world => restoring tid action world = true

/-! ## The flow of a call -/

/-- Where a metered call stands. -/
inductive CallPhase where
  | start
  | closedRead (closed : Bool)
  /-- Neither marker was set. -/
  | passed
  | accepted (amount : ℤ)
  | paid (amount : ℤ) (fenced : Bool)
  | finished
  deriving DecidableEq, Repr

namespace CallPhase

/-- A paid call that has seen its fence written goes on behind it. -/
def fence (done : Bool) : CallPhase → CallPhase
  | .paid amount fenced => .paid amount (fenced || done)
  | phase => phase

theorem fence_false (phase : CallPhase) : phase.fence false = phase := by
  cases phase <;> simp [fence]

/-- A call verifies once, after both markers; it pays once, for an accepted voucher, and stores that voucher; and it
takes its own charge back once, after a payment only behind a fence. -/
def allows (phase : CallPhase) : Action → Prop
  | .store .readClosed => phase = .start
  | .store .readFenced => ∃ closed, phase = .closedRead closed
  | .store (.verify priceRaw _ _) => phase = .passed ∧ 0 < priceRaw
  | .store (.rollback voucher) => phase = .accepted voucher.acceptedAmount ∨ phase = .paid voucher.acceptedAmount true
  | .store (.putVoucher cumulativeRaw _) => ∃ fenced, phase = .paid cumulativeRaw fenced
  | .callUpstream => ∃ amount, phase = .accepted amount
  | _ => True

def next (phase : CallPhase) : (action : Action) → action.Answer → CallPhase
  | .store .readClosed, some closed => .closedRead closed
  | .store .readClosed, none => .finished
  | .store .readFenced, answer =>
    match phase, answer with
    | .closedRead false, some false => .passed
    | _, _ => .finished
  | .store (.verify _ _ _), some (.accepted voucher) => .accepted voucher.acceptedAmount
  | .store (.verify _ _ _), _ => .finished
  | .store (.rollback _), _ => .finished
  | .store .fence, some _ => phase.fence true
  | .callUpstream, result =>
    match phase with
    | .accepted amount => if result.paid then .paid amount false else phase
    | _ => phase
  | _, _ => phase

end CallPhase

def callFlow (verifier : Verifier) : Typestate (channelMachine verifier) := ⟨CallPhase, CallPhase.allows, CallPhase.next⟩

section Walk

open Typestate

variable {verifier : Verifier} {phase : CallPhase}

/-- A throwing program that ends in this phase whatever it answers. -/
theorem follows_releaseLock (lockId : LockId) :
    (callFlow verifier).Follows (releaseLock lockId).run (fun _ after => after = phase) phase :=
  Follows.seq (Follows.call trivial fun released => by cases released <;> rfl)

theorem follows_fenceAttempts (attempts : ℕ) : (callFlow verifier).Follows (fenceAttempts attempts).run
    (fun fenced after => ∃ done, fenced = some done ∧ after = phase.fence done) phase := by
  induction attempts with
  | zero => exact ⟨false, rfl, phase.fence_false.symm⟩
  | succ attempts ih =>
    refine Follows.seq (Follows.attempt (Follows.call trivial fun fenced => ?_))
    cases fenced with
    | none => exact ih
    | some _ => exact ⟨true, rfl, rfl⟩

variable {voucher : ChannelVoucher}

/-- After its rollback a call touches the watermark no more. -/
theorem follows_rollbackFailedChannelVoucher
    (owns : phase = .accepted voucher.acceptedAmount ∨ phase = .paid voucher.acceptedAmount true) :
    (callFlow verifier).Follows (rollbackFailedChannelVoucher voucher).run (fun _ after => after = .finished) phase := by
  refine Follows.seq (Follows.call owns fun rolledBack => ?_)
  cases rolledBack with
  | none => exact rfl
  | some rolledBack =>
    cases rolledBack with
    | true => exact Follows.seq (Follows.call trivial fun deleted => by cases deleted <;> rfl)
    | false =>
      refine Follows.seq (Follows.call trivial fun current => ?_)
      cases current with
      | none => exact rfl
      | some current =>
        exact Follows.seq (Follows.call trivial fun challenge => by cases challenge <;> rfl)

theorem follows_reverseChargeOrFence (owns : phase = .accepted voucher.acceptedAmount) :
    (callFlow verifier).Follows (reverseChargeOrFence voucher).run (fun _ after => after = .finished) phase := by
  refine Follows.seq (Follows.attempt ((follows_rollbackFailedChannelVoucher (.inl owns)).mono
    fun rolledBack after finished => ?_))
  subst finished
  dsimp only
  split_ifs
  · exact rfl
  · refine Follows.seq (Follows.attempt (Follows.call trivial fun marked => ?_))
    have fences : (callFlow verifier).Follows fenceChannelPersistent.run
        (fun fenced after => ∃ done, fenced = some done ∧ after = .finished) .finished := follows_fenceAttempts 3
    cases marked <;> refine Follows.seq (fences.mono ?_)
    all_goals
      rintro fenced after ⟨done, rfl, rfl⟩
      exact rfl

/-- The fence is there before the charge of a paid call is taken back. -/
theorem follows_absorbPaidCallAndFence {fenced : Bool} (owns : phase = .paid voucher.acceptedAmount fenced) :
    (callFlow verifier).Follows (absorbPaidCallAndFence voucher).run anyhow phase := by
  subst owns
  refine Follows.seq (Follows.attempt (Follows.call trivial fun counted => ?_))
  have fences : (callFlow verifier).Follows fenceChannelPersistent.run (fun answer after => ∃ done,
      answer = some done ∧ after = .paid voucher.acceptedAmount (fenced || done)) (.paid voucher.acceptedAmount fenced) :=
    follows_fenceAttempts 3
  cases counted <;> refine Follows.seq (fences.mono ?_)
  all_goals
    rintro answer after ⟨done, rfl, rfl⟩
    cases done with
    | false => exact trivial
    | true =>
      rw [Bool.or_true]
      refine Follows.seq (Follows.attempt ((follows_rollbackFailedChannelVoucher (.inr rfl)).mono
        fun rolledBack after _ => ?_))
      exact trivial

theorem follows_checkCovered (cumulativeRaw : ℤ) : (callFlow verifier).Follows (checkCovered cumulativeRaw).run
    (fun covered after => (∃ answer, covered = some answer) ∧ after = phase) phase := by
  refine Follows.seq (Follows.attempt (Follows.call trivial fun read => ?_))
  cases read with
  | none => exact ⟨⟨false, rfl⟩, rfl⟩
  | some stored => cases stored <;> exact ⟨⟨_, rfl⟩, rfl⟩

theorem follows_persistVoucherOrReverse (owns : phase = .paid voucher.acceptedAmount false) :
    (callFlow verifier).Follows (persistVoucherOrReverse voucher).run anyhow phase := by
  unfold persistVoucherOrReverse
  have absorbs : (callFlow verifier).Follows (do
      absorbPaidCallAndFence voucher
      pure false : Call Bool).run anyhow phase := by
    refine Follows.seq ((follows_absorbPaidCallAndFence owns).mono fun absorbed after _ => ?_)
    cases absorbed <;> exact trivial
  split_ifs
  · exact absorbs
  · refine Follows.seq (Follows.attempt (Follows.call ⟨false, owns⟩ fun kept => ?_))
    cases kept with
    | some _ => exact trivial
    | none =>
      refine Follows.seq ((follows_checkCovered voucher.acceptedAmount).mono ?_)
      rintro covered after ⟨⟨answer, rfl⟩, rfl⟩
      cases answer with
      | true => exact trivial
      | false => exact absorbs

theorem follows_commitThen (lockId : LockId) (stands : CallResponse)
    (owns : phase = .paid voucher.acceptedAmount false) :
    (callFlow verifier).Follows (commitThen voucher lockId stands).run anyhow phase := by
  have commits : (callFlow verifier).Follows (commitPaidVoucher voucher lockId).run anyhow phase := by
    refine Follows.seq (Follows.ask trivial fun now => ?_)
    refine Follows.seq (Follows.call trivial fun valid => ?_)
    cases valid with
    | none => exact trivial
    | some valid =>
      cases valid with
      | true =>
        refine Follows.seq ((follows_persistVoucherOrReverse owns).mono fun kept after _ => ?_)
        cases kept with
        | none => exact trivial
        | some kept => cases kept <;> exact trivial
      | false =>
        refine Follows.seq ((follows_checkCovered voucher.acceptedAmount).mono ?_)
        rintro covered after ⟨⟨answer, rfl⟩, rfl⟩
        cases answer with
        | true => exact trivial
        | false =>
          refine Follows.seq ((follows_absorbPaidCallAndFence owns).mono fun absorbed after _ => ?_)
          cases absorbed <;> exact trivial
  refine Follows.seq (commits.mono fun response after _ => ?_)
  cases response with
  | none => exact trivial
  | some response => cases response <;> exact trivial

theorem follows_reverseThen (response : CallResponse) (owns : phase = .accepted voucher.acceptedAmount) :
    (callFlow verifier).Follows (reverseThen voucher response).run anyhow phase := by
  refine Follows.seq ((follows_reverseChargeOrFence owns).mono fun reversed after _ => ?_)
  cases reversed <;> exact trivial

theorem follows_settleCall (call : MeteredCall) (lockId : LockId) (owns : phase = .accepted voucher.acceptedAmount) :
    (callFlow verifier).Follows (settleCall call voucher lockId).run anyhow phase := by
  subst owns
  refine Follows.seq (Follows.ask trivial fun now => ?_)
  refine Follows.seq (Follows.call trivial fun valid => ?_)
  cases valid with
  | none => exact trivial
  | some valid =>
    cases valid with
    | false => exact follows_reverseThen lockSuperseded rfl
    | true =>
      refine Follows.seq (Follows.ask ⟨_, rfl⟩ fun result => ?_)
      cases result with
      | returned paid usable =>
        cases paid with
        | true => cases usable <;> exact follows_commitThen lockId _ rfl
        | false => exact follows_reverseThen upstreamUnpaid rfl
      | threw paymentEvidence status code =>
        cases paymentEvidence with
        | true => exact follows_commitThen lockId _ rfl
        | false => exact follows_reverseThen _ rfl

/-- A verified call stands behind its accepted voucher. -/
def Verifies (result : Option VerifyOutcome) (phase : CallPhase) : Prop :=
  ∀ voucher lockId, result = some (.verified voucher lockId) → phase = .accepted voucher.acceptedAmount

theorem follows_refuse (lockId : LockId) (response : CallResponse) : (callFlow verifier).Follows (do
    releaseLock lockId
    pure (.respond response) : Call VerifyOutcome).run Verifies phase := by
  refine Follows.seq ((follows_releaseLock lockId).mono fun released after _ => ?_)
  cases released <;> exact fun _ _ same => nomatch same

theorem follows_verifiedVoucher (lockId : LockId) (owns : phase = .accepted voucher.acceptedAmount) :
    (callFlow verifier).Follows (verifiedVoucher voucher lockId).run Verifies phase := by
  unfold verifiedVoucher
  split
  next =>
    intro other lock same
    cases same
    exact owns
  next =>
    refine Follows.seq (Follows.attempt ((follows_rollbackFailedChannelVoucher (.inl owns)).mono
      fun rolledBack after _ => ?_))
    exact follows_refuse lockId closeNotMetered

theorem follows_verifyUnderLock (call : MeteredCall) (credential : Credential) (lockId : LockId)
    (passed : phase = .passed) :
    (callFlow verifier).Follows (verifyUnderLock call credential lockId).run Verifies phase := by
  have positive : 0 < call.priceRaw := by
    have markup := applyMarkup_pos call.maxUpstreamRaw
    unfold MeteredCall.priceRaw
    omega
  refine Follows.seq (Follows.call trivial fun previous => ?_)
  cases previous with
  | none => exact fun _ _ same => nomatch same
  | some previous =>
    dsimp only
    split_ifs
    · exact follows_refuse lockId insufficientChannelBalance
    · refine Follows.seq (Follows.attempt (Follows.call ⟨passed, positive⟩ fun verified => ?_))
      cases verified with
      | none => exact follows_refuse lockId voucherVerificationFailed
      | some verified =>
        cases verified with
        | challenged challenge => exact follows_refuse lockId (challengeResponse challenge)
        | accepted voucher => exact follows_verifiedVoucher lockId rfl

theorem follows_verifyLocked (call : MeteredCall) (credential : Credential) (lockId : LockId) (start : phase = .start) :
    (callFlow verifier).Follows (verifyLocked call credential lockId).run Verifies phase := by
  have unverified : ∀ phase, Verifies none phase := fun _ _ _ same => nomatch same
  have blocks : (callFlow verifier).Follows isChannelBlocked.run
      (fun blocked after => blocked = some false → after = .passed) phase := by
    refine Follows.seq (Follows.call start fun closed => ?_)
    cases closed with
    | none => exact fun same => nomatch same
    | some closed =>
      refine Follows.seq (Follows.call ⟨closed, rfl⟩ fun fenced => ?_)
      cases fenced with
      | none => exact fun same => nomatch same
      | some fenced =>
        intro same
        cases closed <;> cases fenced <;> first | rfl | cases same
  refine Follows.seq (blocks.mono fun blocked after passes => ?_)
  cases blocked with
  | none => exact unverified _
  | some blocked =>
    cases blocked with
    | true => exact follows_refuse lockId channelClosed
    | false =>
      obtain rfl := passes rfl
      refine Follows.seq (Follows.ask trivial fun closing => ?_)
      cases closing with
      | true =>
        refine Follows.seq ((follows_fenceAttempts 3).mono ?_)
        rintro fenced after ⟨done, rfl, rfl⟩
        exact follows_refuse lockId channelClosing
      | false => exact follows_verifyUnderLock call credential lockId rfl

theorem follows_serve (call : MeteredCall) (credential : Option Credential) :
    (callFlow verifier).Follows (serve call credential) anyhow .start := by
  have verifies : (callFlow verifier).Follows (verifyChannelVoucher call credential).run Verifies .start := by
    cases credential with
    | none =>
      refine Follows.seq (Follows.attempt (Follows.call trivial fun challenge => ?_))
      cases challenge <;> exact fun _ _ same => nomatch same
    | some credential =>
      refine Follows.seq (Follows.ask trivial fun lockId => ?_)
      refine Follows.seq (Follows.ask trivial fun now => ?_)
      refine Follows.seq (Follows.call trivial fun acquired => ?_)
      cases acquired with
      | none => exact fun _ _ same => nomatch same
      | some acquired =>
        cases acquired with
        | false => exact fun _ _ same => nomatch same
        | true => exact follows_verifyLocked call credential lockId rfl
  have executes : (callFlow verifier).Follows (executeMeteredChannelCall call credential).run anyhow .start := by
    refine Follows.seq (verifies.mono fun outcome after owns => ?_)
    cases outcome with
    | none => exact trivial
    | some outcome =>
      cases outcome with
      | respond response => exact trivial
      | verified voucher lockId =>
        refine Follows.bind ((follows_settleCall call lockId (owns voucher lockId rfl)).mono fun result after _ => ?_)
        have releases : (callFlow verifier).Follows (releaseLock lockId).run (fun _ now => now = after) after :=
          follows_releaseLock lockId
        exact Follows.bind (Follows.bind releases.loose)
  refine Follows.bind (executes.mono fun result after _ => ?_)
  exact Follows.ask trivial fun _ => trivial

end Walk

/-! ## The stack of vouchers -/

/-- The vouchers lie on top of one another: each rises above the watermark it replaced. -/
def Stacked : ℤ → List Acceptance → Prop
  | _, [] => True
  | watermark, acceptance :: rest => acceptance.amount ≤ watermark ∧ acceptance.before < acceptance.amount ∧
      Stacked acceptance.before rest

/-- A voucher of the call over this amount stands. -/
def World.Carries (world : World) (tid : ℕ) (amount : ℤ) : Prop :=
  ∃ acceptance ∈ world.standing, acceptance.owner = tid ∧ acceptance.amount = amount

section Stack

variable {watermark higher : ℤ} {standing : List Acceptance}

section Standing

variable (stacked : Stacked watermark standing)

include stacked

theorem Stacked.mono (le : watermark ≤ higher) : Stacked higher standing := by
  cases standing with
  | nil => trivial
  | cons acceptance rest => exact ⟨Int.le_trans stacked.1 le, stacked.2⟩

theorem Stacked.le {acceptance : Acceptance} (member : acceptance ∈ standing) : acceptance.amount ≤ watermark := by
  induction standing generalizing watermark with
  | nil => cases member
  | cons newest rest ih =>
    obtain ⟨top, rises, below⟩ := stacked
    rcases mem_cons.mp member with rfl | older
    · exact top
    · have lower := ih below older
      omega

theorem Stacked.filter (kept : Acceptance → Bool) : Stacked watermark (standing.filter kept) := by
  induction standing generalizing watermark with
  | nil => trivial
  | cons acceptance rest ih =>
    obtain ⟨top, rises, below⟩ := stacked
    rw [filter_cons]
    split_ifs
    · exact ⟨top, rises, ih below⟩
    · exact (ih below).mono (by omega)

theorem Stacked.advance (owner : ℕ) (phase : Phase) :
    Stacked watermark (standing.map (Acceptance.advance owner phase)) := by
  induction standing generalizing watermark with
  | nil => trivial
  | cons acceptance rest ih =>
    obtain ⟨top, rises, below⟩ := stacked
    refine ⟨?_, ?_, ?_⟩
    · rw [Acceptance.advance_amount]
      exact top
    · rw [Acceptance.advance_before, Acceptance.advance_amount]
      exact rises
    · rw [Acceptance.advance_before]
      exact ih below

/-- Taking the topmost voucher back leaves a stack, as long as no less is restored than it replaced. -/
theorem Stacked.takeBack {tid : ℕ} {restored : ℤ} {acceptance : Acceptance}
    (member : acceptance ∈ standing) (own : acceptance.owner = tid) (latest : acceptance.amount = watermark)
    (enough : acceptance.before ≤ restored) :
    Stacked restored (standing.filter fun acceptance => acceptance.owner ≠ tid) := by
  cases standing with
  | nil => cases member
  | cons newest rest =>
    obtain ⟨top, rises, below⟩ := stacked
    rcases mem_cons.mp member with rfl | older
    · rw [filter_cons_of_neg (by simpa using own)]
      exact (below.filter _).mono enough
    · have lower := below.le older
      omega

end Standing

end Stack

/-! ## What one action does to the watermark -/

inductive WatermarkStep (verifier : Verifier) (tid : ℕ) (action : Action) (world after : World) : Prop
  | quiet (fenced : world.fenced = true → after.fenced = true) (cumulative : after.cumulative = world.cumulative)
      (standing : after.standing = world.standing)
  | advanced (phase : Phase) (fenced : after.fenced = world.fenced) (cumulative : after.cumulative = world.cumulative)
      (standing : after.standing = world.standing.map (Acceptance.advance tid phase))
  | accepted {priceRaw : ℤ} {credential : Credential} {previousAmount : ℤ}
      (performs : action = .store (.verify priceRaw credential previousAmount))
      (accepts : verifier world.watermark priceRaw credential = true) (fenced : after.fenced = world.fenced)
      (watermark : after.watermark = credential.amount)
      (standing : after.standing = ⟨tid, priceRaw, world.watermark, credential.amount, .accepted⟩ :: world.standing)
  | rolledBack {voucher : ChannelVoucher} (performs : action = .store (.rollback voucher))
      (effective : voucher.rollback world.cumulative ≠ none) (fenced : after.fenced = world.fenced)
      (latest : world.watermark = voucher.acceptedAmount) (watermark : after.watermark = voucher.previousAmount)
      (standing : after.standing = world.standing.filter fun acceptance => acceptance.owner ≠ tid)

section Steps

variable {verifier : Verifier} {tid : ℕ}

theorem store_watermark (op : StoreOp) (text : String) (world : World) :
    WatermarkStep verifier tid (.store op) world (op.perform verifier tid text world).2 := by
  cases op with
  | fence => exact .quiet (fun _ => rfl) rfl rfl
  | putVoucher cumulativeRaw signature => exact .advanced .kept rfl rfl rfl
  | rollback voucher =>
    simp only [StoreOp.perform]
    split
    next => exact .quiet id rfl rfl
    next restored rolledBack =>
      obtain ⟨latest, watermark, -⟩ := rollbackCumulative_some rolledBack
      exact .rolledBack rfl (by rw [rolledBack]; exact Option.some_ne_none _) rfl latest watermark rfl
  | verify priceRaw credential previousAmount =>
    simp only [StoreOp.perform]
    split_ifs with accepts
    · exact .accepted rfl accepts rfl rfl rfl
    · exact .quiet id rfl rfl
  | _ => exact .quiet id rfl rfl

theorem watermark_step (action : Action) (choice : Choice) (world : World) :
    WatermarkStep verifier tid action world (perform verifier tid action choice world).2 := by
  cases action with
  | store op =>
    simp only [perform, Fault.apply]
    cases choice.fault with
    | failed => exact .quiet id rfl rfl
    | none => exact store_watermark op choice.text world
    | lost => exact store_watermark op choice.text world
  | respond response =>
    simp only [perform]
    split_ifs
    · exact .quiet id rfl rfl
    · exact .advanced .charged rfl rfl rfl
  | _ => exact .quiet id rfl rfl

variable {action : Action} {world after : World}

/-- No step takes a fence away. -/
theorem WatermarkStep.fence (step : WatermarkStep verifier tid action world after) (fenced : world.fenced = true) :
    after.fenced = true := by
  cases step with
  | quiet kept => exact kept fenced
  | advanced phase same => exact same.trans fenced
  | accepted performs accepts same => exact same.trans fenced
  | rolledBack performs effective same => exact same.trans fenced

/-- Only its own rollback takes a voucher off the stack. -/
theorem WatermarkStep.carries (step : WatermarkStep verifier tid action world after) {owner : ℕ} {amount : ℤ}
    (carries : world.Carries owner amount) (kept : owner ≠ tid ∨ ∀ voucher, action ≠ .store (.rollback voucher)) :
    after.Carries owner amount := by
  obtain ⟨acceptance, member, own, same⟩ := carries
  cases step with
  | quiet fenced cumulative standing => exact ⟨acceptance, standing ▸ member, own, same⟩
  | advanced phase fenced cumulative standing =>
    refine ⟨acceptance.advance tid phase, ?_, ?_, ?_⟩
    · rw [standing]
      exact mem_map_of_mem member
    · rw [Acceptance.advance_owner]
      exact own
    · rw [Acceptance.advance_amount]
      exact same
  | accepted performs accepts fenced watermark standing =>
    exact ⟨acceptance, standing ▸ mem_cons_of_mem _ member, own, same⟩
  | rolledBack performs effective fenced latest watermark standing =>
    rcases kept with other | unrolled
    · refine ⟨acceptance, ?_, own, same⟩
      rw [standing]
      exact mem_filter.mpr ⟨member, by simpa [own] using other⟩
    · exact absurd performs (unrolled _)

/-- What the verifier takes for a call covers the price on top of the watermark. -/
abbrev Covers (verifier : Verifier) : Prop := ∀ watermark priceRaw credential,
  verifier watermark priceRaw credential = true → watermark + priceRaw ≤ credential.amount

/-- The stack survives every step that is not a rollback below what its voucher replaced. -/
theorem WatermarkStep.stacked (step : WatermarkStep verifier tid action world after)
    (monotone : Covers verifier) (priced : ∀ priceRaw credential previousAmount,
      action = .store (.verify priceRaw credential previousAmount) → 0 < priceRaw)
    (restores : ∀ voucher, action = .store (.rollback voucher) → world.Carries tid voucher.acceptedAmount ∧
      (voucher.rollback world.cumulative ≠ none →
        ∀ acceptance ∈ world.standing, acceptance.owner = tid → acceptance.before ≤ voucher.previousAmount))
    (stacked : Stacked world.watermark world.standing) : Stacked after.watermark after.standing := by
  cases step with
  | quiet fenced cumulative standing =>
    rw [World.watermark, cumulative, standing]
    exact stacked
  | advanced phase fenced cumulative standing =>
    rw [World.watermark, cumulative, standing]
    exact stacked.advance tid phase
  | accepted performs accepts fenced watermark standing =>
    have positive := priced _ _ _ performs
    have reaches := monotone _ _ _ accepts
    rw [watermark, standing]
    refine ⟨Int.le_rfl, ?_, stacked⟩
    dsimp only
    omega
  | rolledBack performs effective fenced latest watermark standing =>
    obtain ⟨⟨acceptance, member, own, amount⟩, enough⟩ := restores _ performs
    rw [watermark, standing]
    exact stacked.takeBack member own (amount.trans latest.symm) (enough effective acceptance member own)

end Steps

/-! ## The invariant -/

/-- A call that was late is not paid; and unless the channel is fenced, the vouchers are stacked below the
watermark, those of paid calls among them. -/
structure Fenced (world : SettleWorld) : Prop where
  late : ∀ tid ∈ world.late, tid ∉ world.paid
  stacked : world.channel.fenced = true ∨ Stacked world.channel.watermark world.channel.standing
  stands : world.channel.fenced = true ∨ ∀ tid ∈ world.paid, ∀ amount, (tid, amount) ∈ world.accepted →
    world.channel.Carries tid amount

/-- What a party does leaves the others' vouchers, payments and readings alone. -/
structure SettleMoves (tid : ℕ) (before after : SettleWorld) : Prop where
  fenced : before.channel.fenced = true → after.channel.fenced = true
  carries : ∀ owner amount, owner ≠ tid → before.channel.Carries owner amount → after.channel.Carries owner amount
  accepted : ∀ owner amount, owner ≠ tid → (owner, amount) ∈ after.accepted → (owner, amount) ∈ before.accepted
  paid : ∀ owner, owner ≠ tid → owner ∈ after.paid → owner ∈ before.paid
  late : ∀ owner, owner ≠ tid → owner ∈ after.late → owner ∈ before.late

/-- The call has seen no voucher accepted and paid nothing. -/
structure SettleWorld.Fresh (world : SettleWorld) (tid : ℕ) : Prop where
  accepted : ∀ amount, (tid, amount) ∉ world.accepted
  paid : tid ∉ world.paid

/-- The only voucher that the call has seen accepted is this one, and it stands unless the channel is fenced. -/
structure SettleWorld.Owns (world : SettleWorld) (tid : ℕ) (amount : ℤ) : Prop where
  accepted : ∀ other, (tid, other) ∈ world.accepted → other = amount
  stands : world.channel.fenced = true ∨ world.channel.Carries tid amount

def CallKnows (tid : ℕ) (phase : CallPhase) (world : SettleWorld) : Prop :=
  match phase with
  | .start => world.Fresh tid ∧ tid ∉ world.late
  | .closedRead closed => world.Fresh tid ∧ (tid ∈ world.late → closed = true ∨ world.channel.fenced = true)
  | .passed => world.Fresh tid ∧ tid ∉ world.late
  | .accepted amount => world.Owns tid amount ∧ tid ∉ world.late ∧ tid ∉ world.paid
  | .paid amount fenced => world.Owns tid amount ∧ tid ∉ world.late ∧ (fenced = true → world.channel.fenced = true)
  | .finished => True

def fenceProtocol (verifier : Verifier) : Protocol (settleMachine verifier) where
  Inv := Fenced
  Guar := SettleMoves

section Protocol

variable {verifier : Verifier} {tid : ℕ} {phase : CallPhase} {world after : SettleWorld}

theorem SettleWorld.Fresh.keep (fresh : world.Fresh tid) {other : ℕ} (moves : SettleMoves other world after)
    (distinct : tid ≠ other) : after.Fresh tid :=
  ⟨fun amount member => fresh.accepted amount (moves.accepted tid amount distinct member),
    fun member => fresh.paid (moves.paid tid distinct member)⟩

theorem SettleWorld.Owns.keep {amount : ℤ} (owns : world.Owns tid amount) {other : ℕ}
    (moves : SettleMoves other world after) (distinct : tid ≠ other) : after.Owns tid amount :=
  ⟨fun another member => owns.accepted another (moves.accepted tid another distinct member),
    owns.stands.imp moves.fenced (moves.carries tid amount distinct)⟩

theorem callKnows_stable : (fenceProtocol verifier).Stable tid (CallKnows tid phase) := by
  intro other world after distinct _ _ moves knows
  have own : tid ≠ other := Ne.symm distinct
  have unread : tid ∉ world.late → tid ∉ after.late := fun early member => early (moves.late tid own member)
  cases phase with
  | start => exact ⟨knows.1.keep moves own, unread knows.2⟩
  | closedRead closed =>
    exact ⟨knows.1.keep moves own, fun member => (knows.2 (moves.late tid own member)).imp id moves.fenced⟩
  | passed => exact ⟨knows.1.keep moves own, unread knows.2⟩
  | accepted amount =>
    exact ⟨knows.1.keep moves own, unread knows.2.1, fun member => knows.2.2 (moves.paid tid own member)⟩
  | paid amount fenced => exact ⟨knows.1.keep moves own, unread knows.2.1, fun done => moves.fenced (knows.2.2 done)⟩
  | finished => trivial

/-- A step that remembers nothing and takes no voucher off the stack keeps what a call knows. -/
theorem CallKnows.keep (knows : CallKnows tid phase world)
    (fenced : world.channel.fenced = true → after.channel.fenced = true)
    (carries : ∀ amount, world.channel.Carries tid amount → after.channel.Carries tid amount)
    (accepted : after.accepted = world.accepted) (paid : after.paid = world.paid) (late : after.late = world.late) :
    CallKnows tid phase after := by
  have fresh : world.Fresh tid → after.Fresh tid := by
    rintro ⟨unaccepted, unpaid⟩
    constructor
    · rw [accepted]
      exact unaccepted
    · rw [paid]
      exact unpaid
  have owns : ∀ amount, world.Owns tid amount → after.Owns tid amount := by
    rintro amount ⟨only, stands⟩
    constructor
    · rw [accepted]
      exact only
    · exact stands.imp fenced (carries amount)
  cases phase with
  | start => exact ⟨fresh knows.1, late ▸ knows.2⟩
  | closedRead closed => exact ⟨fresh knows.1, fun member => (knows.2 (late ▸ member)).imp id fenced⟩
  | passed => exact ⟨fresh knows.1, late ▸ knows.2⟩
  | accepted amount => exact ⟨owns amount knows.1, late ▸ knows.2.1, paid ▸ knows.2.2⟩
  | paid amount done => exact ⟨owns amount knows.1, late ▸ knows.2.1, fun behind => fenced (knows.2.2 behind)⟩
  | finished => trivial

/-- A step that remembers nothing keeps the invariant, as long as it keeps the stack. -/
theorem Fenced.keep (inv : Fenced world) (fenced : world.channel.fenced = true → after.channel.fenced = true)
    (stacked : after.channel.fenced = true ∨ Stacked after.channel.watermark after.channel.standing)
    (carries : after.channel.fenced = true ∨ ∀ owner ∈ world.paid, ∀ amount, world.channel.Carries owner amount →
      after.channel.Carries owner amount)
    (accepted : after.accepted = world.accepted) (paid : after.paid = world.paid) (late : after.late = world.late) :
    Fenced after where
  late := by
    rw [late, paid]
    exact inv.late
  stacked := stacked
  stands := by
    rw [paid, accepted]
    rcases inv.stands with closed | stands
    · exact .inl (fenced closed)
    · rcases carries with closed | carries
      · exact .inl closed
      · exact .inr fun owner member amount known => carries owner member amount (stands owner member amount known)

end Protocol

/-! ## Every step of a call -/

section CallSteps

variable {verifier : Verifier} {tid : ℕ} {phase : CallPhase} {world : SettleWorld} {action : Action}
  {choice : SettleChoice}

/-- Only what the party itself has done is remembered. -/
theorem remember_own (answer : action.Answer) {owner : ℕ} (other : owner ≠ tid) :
    (∀ amount, (owner, amount) ∈ (world.remember tid action answer).accepted → (owner, amount) ∈ world.accepted) ∧
      (owner ∈ (world.remember tid action answer).paid → owner ∈ world.paid) ∧
      (owner ∈ (world.remember tid action answer).late → owner ∈ world.late) := by
  unfold SettleWorld.remember
  split
  · refine ⟨fun amount member => ?_, id, id⟩
    rcases mem_cons.mp member with same | old
    · exact absurd (Prod.mk.inj same).1 other
    · exact old
  · split_ifs
    · refine ⟨fun _ => id, id, fun member => ?_⟩
      rcases mem_cons.mp member with same | old
      · exact absurd same other
      · exact old
    · exact ⟨fun _ => id, id, id⟩
  · split_ifs
    · refine ⟨fun _ => id, fun member => ?_, id⟩
      rcases mem_cons.mp member with same | old
      · exact absurd same other
      · exact old
    · exact ⟨fun _ => id, id, id⟩
  · exact ⟨fun _ => id, id, id⟩

/-- What is remembered stays. -/
theorem remember_kept (answer : action.Answer) : world.accepted ⊆ (world.remember tid action answer).accepted ∧
    world.paid ⊆ (world.remember tid action answer).paid := by
  unfold SettleWorld.remember
  split
  · exact ⟨subset_cons_self _ _, List.Subset.refl _⟩
  · split_ifs <;> exact ⟨List.Subset.refl _, List.Subset.refl _⟩
  · split_ifs
    · exact ⟨List.Subset.refl _, subset_cons_self _ _⟩
    · exact ⟨List.Subset.refl _, List.Subset.refl _⟩
  · exact ⟨List.Subset.refl _, List.Subset.refl _⟩

theorem remember_paid {result : UpstreamResult} (paid : result.paid = true) :
    world.remember tid .callUpstream result = { world with paid := tid :: world.paid } := if_pos paid

theorem remember_unpaid {result : UpstreamResult} (unpaid : ¬ result.paid = true) :
    world.remember tid .callUpstream result = world := if_neg unpaid

theorem call_step (verifier : Verifier) (tid : ℕ) (action : Action) (choice : SettleChoice) (world : SettleWorld) :
    WatermarkStep verifier tid action world.channel (perform verifier tid action choice.call world.channel).2 :=
  watermark_step action choice.call world.channel

theorem call_moves : SettleMoves tid world (settlePerform verifier tid (.call action) choice world).2 := by
  have step := call_step verifier tid action choice world
  constructor
  case fenced => exact step.fence
  case carries => exact fun owner amount other carries => step.carries carries (.inl other)
  case accepted => exact fun owner amount other => (remember_own _ other).1 amount
  case paid => exact fun owner other => (remember_own _ other).2.1
  case late => exact fun owner other => (remember_own _ other).2.2

theorem call_stacked (monotone : Covers verifier) (inv : Fenced world) (knows : CallKnows tid phase world)
    (allowed : phase.allows action)
    (restores : restoring tid (.call action) world = true) :
    (perform verifier tid action choice.call world.channel).2.fenced = true ∨
      Stacked (perform verifier tid action choice.call world.channel).2.watermark
        (perform verifier tid action choice.call world.channel).2.standing := by
  have step := call_step verifier tid action choice world
  by_cases fenced : world.channel.fenced = true
  · exact .inl (step.fence fenced)
  · right
    apply step.stacked monotone
    · rintro priceRaw credential previousAmount rfl
      exact allowed.2
    · rintro voucher rfl
      constructor
      · rcases allowed with rfl | rfl
        · exact knows.1.stands.resolve_left fenced
        · exact knows.1.stands.resolve_left fenced
      · intro effective
        simp only [restoring, fenced, effective, false_or, Bool.false_eq_true, all_eq_true,
          decide_eq_true_eq] at restores
        exact restores
    · exact inv.stacked.resolve_left fenced

/-- The voucher of a call that has nothing yet is accepted, or it is not. -/
theorem knows_verify {priceRaw : ℤ} {credential : Credential} {previousAmount : ℤ} (fresh : world.Fresh tid)
    (early : tid ∉ world.late) :
    CallKnows tid (phase.next (.store (.verify priceRaw credential previousAmount))
        (settlePerform verifier tid (.call (.store (.verify priceRaw credential previousAmount))) choice world).1)
      (settlePerform verifier tid (.call (.store (.verify priceRaw credential previousAmount))) choice world).2 := by
  simp only [settlePerform, perform, Fault.apply]
  cases choice.call.fault with
  | lost => trivial
  | failed => trivial
  | none =>
    simp only [StoreOp.perform]
    split_ifs
    · refine ⟨⟨fun other member => ?_, .inr ⟨_, mem_cons_self, rfl, rfl⟩⟩, early, fresh.paid⟩
      rcases mem_cons.mp member with same | old
      · exact (Prod.mk.inj same).2
      · exact absurd old (fresh.accepted other)
    · trivial

/-- What a call knows after it has read the first marker. -/
theorem knows_readClosed (fresh : world.Fresh tid) (early : tid ∉ world.late) :
    CallKnows tid (phase.next (.store .readClosed) (settlePerform verifier tid (.call (.store .readClosed)) choice world).1)
      (settlePerform verifier tid (.call (.store .readClosed)) choice world).2 := by
  simp only [settlePerform, perform, Fault.apply]
  cases choice.call.fault with
  | lost => trivial
  | failed => trivial
  | none =>
    simp only [StoreOp.perform, SettleWorld.remember]
    split_ifs with blocked
    · refine ⟨⟨fresh.accepted, fresh.paid⟩, fun _ => ?_⟩
      simpa only [World.blocked, Bool.or_eq_true] using blocked
    · exact ⟨⟨fresh.accepted, fresh.paid⟩, fun late => absurd late early⟩

theorem knows_readFenced {closed : Bool} (knows : CallKnows tid (.closedRead closed) world) :
    CallKnows tid (CallPhase.next (.closedRead closed) (.store .readFenced)
        (settlePerform verifier tid (.call (.store .readFenced)) choice world).1)
      (settlePerform verifier tid (.call (.store .readFenced)) choice world).2 := by
  obtain ⟨fresh, late⟩ := knows
  simp only [settlePerform, perform, Fault.apply]
  cases choice.call.fault with
  | lost => cases closed <;> trivial
  | failed => cases closed <;> trivial
  | none =>
    simp only [StoreOp.perform, SettleWorld.remember]
    cases closed with
    | true => trivial
    | false =>
      cases fenced : world.channel.fenced with
      | true => trivial
      | false =>
        refine ⟨⟨fresh.accepted, fresh.paid⟩, fun member => ?_⟩
        rcases late member with same | same
        · cases same
        · cases fenced.symm.trans same

theorem knows_fence (knows : CallKnows tid phase world) :
    CallKnows tid (phase.next (.store .fence) (settlePerform verifier tid (.call (.store .fence)) choice world).1)
      (settlePerform verifier tid (.call (.store .fence)) choice world).2 := by
  have kept : ∀ after : SettleWorld, after.channel = { world.channel with fenced := true } →
      after.accepted = world.accepted → after.paid = world.paid → after.late = world.late →
      CallKnows tid phase after := by
    intro after channel accepted paid late
    refine knows.keep (fun _ => by rw [channel]) (fun amount carries => ?_) accepted paid late
    rw [channel]
    exact carries
  simp only [settlePerform, perform, Fault.apply]
  cases choice.call.fault with
  | failed => exact knows
  | lost => exact kept _ rfl rfl rfl rfl
  | none =>
    have behind := kept { world with channel := { world.channel with fenced := true } } rfl rfl rfl rfl
    cases phase with
    | paid amount fenced => exact ⟨behind.1, behind.2.1, fun _ => rfl⟩
    | _ => exact behind

/-- What the invariant says of the acting call itself. -/
theorem own_sound (inv : Fenced world) (knows : CallKnows tid phase world) (allowed : phase.allows action) :
    let after := (settlePerform verifier tid (.call action) choice world).2
    (tid ∈ after.late → tid ∉ after.paid) ∧ (after.channel.fenced = false → tid ∈ after.paid →
      ∀ amount, (tid, amount) ∈ after.accepted → after.channel.Carries tid amount) := by
  have step := call_step verifier tid action choice world
  have stands : world.channel.fenced = false → tid ∈ world.paid → ∀ amount, (tid, amount) ∈ world.accepted →
      world.channel.Carries tid amount := by
    intro unfenced paid
    rcases inv.stands with fenced | stands
    · cases unfenced.symm.trans fenced
    · exact stands tid paid
  have unfenced : (perform verifier tid action choice.call world.channel).2.fenced = false →
      world.channel.fenced = false := by
    intro open_
    by_contra fenced
    have still := step.fence (by simpa using fenced)
    cases open_.symm.trans still
  have unpaid : tid ∉ world.paid → ∀ after : SettleWorld, after.paid = world.paid →
      (tid ∈ after.late → tid ∉ after.paid) ∧ (after.channel.fenced = false → tid ∈ after.paid →
        ∀ amount, (tid, amount) ∈ after.accepted → after.channel.Carries tid amount) := by
    intro unpaid after same
    rw [same]
    exact ⟨fun _ => unpaid, fun _ paid => absurd paid unpaid⟩
  have kept : (∀ voucher, action ≠ .store (.rollback voucher)) → world.remember tid action
      (perform verifier tid action choice.call world.channel).1 = world →
      let after := (settlePerform verifier tid (.call action) choice world).2
      (tid ∈ after.late → tid ∉ after.paid) ∧ (after.channel.fenced = false → tid ∈ after.paid →
        ∀ amount, (tid, amount) ∈ after.accepted → after.channel.Carries tid amount) := by
    intro unrolled same
    simp only [settlePerform, same]
    refine ⟨inv.late tid, fun open_ paid amount known => ?_⟩
    exact step.carries (stands (unfenced open_) paid amount known) (.inr unrolled)
  cases action with
  | callUpstream =>
    obtain ⟨amount, rfl⟩ := allowed
    obtain ⟨owns, early, -⟩ := knows
    by_cases paid : choice.call.upstream.paid = true
    · simp only [settlePerform, perform, remember_paid paid]
      refine ⟨fun late => absurd late early, fun open_ _ other known => ?_⟩
      obtain rfl := owns.accepted other known
      exact owns.stands.resolve_left (by simpa using open_)
    · simp only [settlePerform, perform, remember_unpaid paid]
      exact ⟨inv.late tid, stands⟩
  | store op =>
    cases op with
    | verify priceRaw credential previousAmount =>
      obtain ⟨rfl, -⟩ := allowed
      have same : ∀ answer : Option VerifyResult,
          (world.remember tid (.store (.verify priceRaw credential previousAmount)) answer).paid = world.paid := by
        intro answer
        cases answer with
        | none => rfl
        | some result => cases result <;> rfl
      exact unpaid knows.1.paid _ (same _)
    | readClosed =>
      have start : phase = .start := allowed
      subst start
      refine unpaid knows.1.paid _ ?_
      simp only [settlePerform, SettleWorld.remember]
      split_ifs <;> rfl
    | rollback voucher =>
      rcases allowed with rfl | rfl
      · exact unpaid knows.2.2 _ rfl
      · refine ⟨inv.late tid, fun open_ => ?_⟩
        cases (unfenced open_).symm.trans (knows.2.2 rfl)
    | _ => exact kept (fun _ => by simp) rfl
  | _ => exact kept (fun _ => by simp) rfl

/-- Every step of a call keeps the invariant. -/
theorem fenced_call (monotone : Covers verifier) (inv : Fenced world) (knows : CallKnows tid phase world)
    (allowed : phase.allows action)
    (restores : restoring tid (.call action) world = true) :
    Fenced (settlePerform verifier tid (.call action) choice world).2 := by
  have moves : SettleMoves tid world (settlePerform verifier tid (.call action) choice world).2 := call_moves
  obtain ⟨punctual, standing⟩ := @own_sound verifier tid phase world action choice inv knows allowed
  constructor
  case late =>
    intro owner late
    by_cases own : owner = tid
    · subst own
      exact punctual late
    · exact fun paid => inv.late owner (moves.late owner own late) (moves.paid owner own paid)
  case stacked => exact call_stacked monotone inv knows allowed restores
  case stands =>
    by_cases fenced : (settlePerform verifier tid (.call action) choice world).2.channel.fenced = true
    · exact .inl fenced
    · right
      intro owner paid amount known
      by_cases own : owner = tid
      · subst own
        exact standing (by simpa using fenced) paid amount known
      · rcases inv.stands with closed | stands
        · exact absurd (moves.fenced closed) fenced
        · exact moves.carries owner amount own
            (stands owner (moves.paid owner own paid) amount (moves.accepted owner amount own known))

/-- What a call knows in the phase that its step leads to. -/
theorem knows_call (knows : CallKnows tid phase world) (allowed : phase.allows action) :
    CallKnows tid (phase.next action (settlePerform verifier tid (.call action) choice world).1)
      (settlePerform verifier tid (.call action) choice world).2 := by
  have step := call_step verifier tid action choice world
  have kept : (∀ voucher, action ≠ .store (.rollback voucher)) → world.remember tid action
      (perform verifier tid action choice.call world.channel).1 = world →
      CallKnows tid phase (settlePerform verifier tid (.call action) choice world).2 := by
    intro unrolled same
    refine knows.keep step.fence (fun amount carries => step.carries carries (.inr unrolled)) ?_ ?_ ?_
    all_goals simp only [settlePerform, same]
  cases action with
  | callUpstream =>
    obtain ⟨amount, rfl⟩ := allowed
    obtain ⟨owns, early, unpaid⟩ := knows
    by_cases paid : choice.call.upstream.paid = true
    · simp only [settlePerform, perform, remember_paid paid, CallPhase.next, if_pos paid]
      exact ⟨⟨owns.accepted, owns.stands⟩, early, by rintro ⟨⟩⟩
    · simp only [settlePerform, perform, remember_unpaid paid, CallPhase.next, if_neg paid]
      exact ⟨⟨owns.accepted, owns.stands⟩, early, unpaid⟩
  | store op =>
    cases op with
    | verify priceRaw credential previousAmount =>
      obtain ⟨rfl, -⟩ := allowed
      exact knows_verify knows.1 knows.2
    | readClosed =>
      have start : phase = .start := allowed
      subst start
      exact knows_readClosed knows.1 knows.2
    | readFenced =>
      obtain ⟨closed, rfl⟩ := allowed
      exact knows_readFenced knows
    | fence => exact knows_fence knows
    | rollback voucher => trivial
    | _ => exact kept (fun _ => by simp) rfl
  | _ => exact kept (fun _ => by simp) rfl

end CallSteps

/-! ## Calls and settlement runs together -/

/-- A settlement run only sees to it that it does nothing of what makes a call a call. -/
def settleFlow (verifier : Verifier) : Typestate (settleMachine verifier) where
  Phase := CallPhase
  allowed phase action := match action with
    | .call action => phase.allows action
    | _ => True
  next phase action answer := match action, answer with
    | .call action, answer => phase.next action answer
    | _, _ => phase

/-- Metered calls with any credential, and settlement runs. -/
inductive IsChannelThread : Prog SettleAction SettleAction.Answer Unit → Prop
  | idle : IsChannelThread (pure ())
  | call (call : MeteredCall) (credential : Option Credential) :
      IsChannelThread (finish (embedCall (serve call credential)))
  | settle : IsChannelThread (finish settleOneChannel.run)

section Settlement

open Typestate

variable {verifier : Verifier} {phase : CallPhase}

theorem follows_embedCall {α : Type} {program : Prog Action Action.Answer α} {post : α → CallPhase → Prop}
    (follows : (callFlow verifier).Follows program post phase) :
    (settleFlow verifier).Follows (embedCall program) post phase := by
  have embedded := @Follows.embed _ _ (callFlow verifier) (settleFlow verifier) _ .call (fun _ answer => answer) id
    (fun _ _ allowed => allowed) (fun _ _ _ => rfl) program post phase follows
  refine embedded.mono ?_
  rintro value after ⟨inner, rfl, now⟩
  exact now

/-- A settlement run is open to every phase of a call. -/
theorem follows_settle : (settleFlow verifier).Follows settleOneChannel.run anyhow phase := by
  have performs : settleOneChannel.run.Performs runs :=
    (@follows_settleOneChannel verifier).performs fun _ _ => And.right
  refine Follows.of_kept (fun action open_ phase _ => ⟨?_, fun _ => trivial⟩) performs trivial
  cases action with
  | call action =>
    cases action with
    | store op => cases op <;> trivial
    | now | randomUuid => trivial
    | _ => exact open_.elim
  | _ => trivial

theorem IsChannelThread.follows {thread : Prog SettleAction SettleAction.Answer Unit} (member : IsChannelThread thread) :
    (settleFlow verifier).Follows thread anyhow .start := by
  cases member with
  | idle => exact trivial
  | call call credential =>
    exact Follows.bind (follows_embedCall (follows_serve call credential)).loose
  | settle => exact Follows.bind follows_settle.loose

end Settlement

/-- Every step of either party keeps the invariant and what its party knows. -/
theorem settleFlow_keeps {verifier : Verifier} (monotone : Covers verifier) (tid : ℕ) :
    (settleFlow verifier).Keeps (fenceProtocol verifier) (Restoring verifier) tid (CallKnows tid) where
  stable phase := callKnows_stable
  step phase action allowed world inv knows choice answer after admitted performed := by
    obtain ⟨rfl, rfl⟩ := Prod.mk.inj (Option.some.inj performed)
    have untouched : ∀ next : SettleWorld, next.channel.fenced = world.channel.fenced →
        next.channel.cumulative = world.channel.cumulative → next.channel.standing = world.channel.standing →
        next.accepted = world.accepted → next.paid = world.paid → next.late = world.late →
        Fenced next ∧ SettleMoves tid world next ∧ CallKnows tid phase next := by
      intro next fenced cumulative standing accepted paid late
      have carries : ∀ owner amount, world.channel.Carries owner amount → next.channel.Carries owner amount := by
        intro owner amount carries
        rw [World.Carries, standing]
        exact carries
      have fences : world.channel.fenced = true → next.channel.fenced = true := fun closed => fenced.trans closed
      refine ⟨?_, ?_, ?_⟩
      · refine inv.keep fences ?_ (.inr fun owner _ amount => carries owner amount) accepted paid late
        rw [World.watermark, cumulative, standing, fenced]
        exact inv.stacked
      · exact ⟨fences, fun owner amount _ => carries owner amount, fun _ _ _ member => accepted ▸ member,
          fun _ _ member => paid ▸ member, fun _ _ member => late ▸ member⟩
      · exact knows.keep fences (carries tid) accepted paid late
    cases action with
    | call action =>
      exact ⟨fenced_call monotone inv knows allowed admitted, call_moves, knows_call knows allowed⟩
    | getChannelState => exact untouched world rfl rfl rfl rfl rfl rfl
    | close amount signature => exact untouched world rfl rfl rfl rfl rfl rfl
    | recordWriteoff cumulativeRaw =>
      simp only [Fault.apply]
      cases choice.call.fault <;> exact untouched _ rfl rfl rfl rfl rfl rfl
    | countWriteoff cumulativeRaw =>
      simp only [Fault.apply]
      cases choice.call.fault <;> exact untouched _ rfl rfl rfl rfl rfl rfl
    | markVoucherSettled settledRaw =>
      simp only [Fault.apply]
      cases choice.call.fault <;> exact untouched _ rfl rfl rfl rfl rfl rfl

/-- A step that moves the watermark leaves the fence as it is, and forgets no payment. -/
theorem settle_level (verifier : Verifier) (tid : ℕ) (action : SettleAction) (choice : SettleChoice)
    (world : SettleWorld) :
    let after := (settlePerform verifier tid action choice world).2
    (after.channel.fenced = world.channel.fenced ∨ after.channel.watermark = world.channel.watermark) ∧
      world.accepted ⊆ after.accepted ∧ world.paid ⊆ after.paid := by
  have refl := List.Subset.refl world.accepted
  have paid := List.Subset.refl world.paid
  cases action with
  | call action =>
    have step : WatermarkStep verifier tid action world.channel
        (perform verifier tid action choice.call world.channel).2 := watermark_step action choice.call world.channel
    refine ⟨?_, remember_kept _⟩
    cases step with
    | quiet fenced cumulative => exact .inr (congrArg cumulativeAmount cumulative)
    | advanced phase fenced => exact .inl fenced
    | accepted performs accepts fenced => exact .inl fenced
    | rolledBack performs effective fenced => exact .inl fenced
  | getChannelState => exact ⟨.inl rfl, refl, paid⟩
  | close amount signature => exact ⟨.inl rfl, refl, paid⟩
  | recordWriteoff cumulativeRaw =>
    simp only [settlePerform, Fault.apply]
    cases choice.call.fault <;> exact ⟨.inl rfl, refl, paid⟩
  | countWriteoff cumulativeRaw =>
    simp only [settlePerform, Fault.apply]
    cases choice.call.fault <;> exact ⟨.inl rfl, refl, paid⟩
  | markVoucherSettled settledRaw =>
    simp only [settlePerform, Fault.apply]
    cases choice.call.fault <;> exact ⟨.inl rfl, refl, paid⟩

/-! ## Every run -/

theorem fenced_initial : Fenced .initial where
  late _ member := nomatch member
  stacked := .inr trivial
  stands := .inr fun _ member => nomatch member

/-- Over any interleaving of metered calls and settlement runs, crashing or failing anywhere, in which a rollback
that takes effect on an unfenced channel restores no less than its own voucher replaced: no step lowers the
watermark below the amount of a paid call that nothing covers unless the channel is fenced, and no call that read
the markers after one of them was written is paid. -/
theorem fence_first (verifier : Verifier)
    (monotone : ∀ watermark priceRaw credential, verifier watermark priceRaw credential = true →
      watermark + priceRaw ≤ credential.amount)
    (threads : ℕ → Prog SettleAction SettleAction.Answer Unit) (members : ∀ tid, IsChannelThread (threads tid))
    {before after : (settleMachine verifier).Config} (run : Run (Restoring verifier) ⟨.initial, threads⟩ before)
    (step : Step (Restoring verifier) before after) :
    FenceFirst before.world after.world ∧ ∀ tid ∈ after.world.late, tid ∉ after.world.paid := by
  have knows : ∀ tid, CallKnows tid .start .initial := by
    intro tid
    exact ⟨⟨fun _ member => (nomatch member), fun member => (nomatch member)⟩, fun member => nomatch member⟩
  have reaches : ∀ config : (settleMachine verifier).Config, Run (Restoring verifier) ⟨.initial, threads⟩ config →
      Fenced config.world := by
    intro config run
    have start : (fenceProtocol verifier).Inv SettleWorld.initial := fenced_initial
    exact Typestate.sound (settleFlow_keeps monotone) .start start knows (fun tid => (members tid).follows) run
  have earlier := reaches before run
  have later := reaches after (run.tail step)
  refine ⟨?_, later.late⟩
  intro owner paid amount known _ unfenced level
  cases step with | @mk tid action choice rest answer world next admitted performed => ?_
  have became : world = (settlePerform verifier tid action choice before.world).2 :=
    (congrArg Prod.snd (Option.some.inj performed)).symm
  obtain ⟨moved, accepted, payments⟩ := settle_level verifier tid action choice before.world
  rw [← became] at moved accepted payments
  dsimp only
  rcases moved with fence | watermark
  · -- still unfenced: the voucher of the paid call is on the stack
    have open_ : ¬ world.channel.fenced = true := by rw [fence, unfenced]; exact Bool.false_ne_true
    have carries := later.stands.resolve_left open_ owner (payments paid) amount (accepted known)
    obtain ⟨acceptance, member, -, rfl⟩ := carries
    exact (later.stacked.resolve_left open_).le member
  · rw [watermark]
    exact level

section Superseded

private def meteredCall : MeteredCall := ⟨0, 1000000⟩

/-- Two calls of one channel, priced 10000: the first signs for the second turn. -/
private def supersededCalls : ℕ → Prog SettleAction SettleAction.Answer Unit
  | 0 => finish (embedCall (serve meteredCall (some ⟨"first", 20000, .voucher, "signature"⟩)))
  | 1 => finish (embedCall (serve meteredCall (some ⟨"second", 10000, .voucher, "signature"⟩)))
  | 2 => finish settleOneChannel.run
  | _ => pure ()

private theorem supersededCalls_members : ∀ tid, IsChannelThread (supersededCalls tid)
  | 0 => .call _ _
  | 1 => .call _ _
  | 2 => .settle
  | _ + 3 => .idle

/-- A call that is paid and cannot store its voucher: its next step fences the channel. -/
private def absorbed : List (ℕ × SettleChoice) :=
  replicate 13 (1, .plain) ++ (1, { call := { fault := .failed } }) :: replicate 2 (1, .plain)

private theorem uncovered_of_unstored {world : World} {amount : ℤ} (unstored : world.voucher = none) :
    ¬ world.Covers amount := by
  rintro ⟨voucher, stored, -⟩
  cases unstored.symm.trans stored

theorem fence_first_absorbed : ∃ before after : (settleMachine atLeast).Config,
    Step (Restoring atLeast) before after ∧ before.world.channel.fenced = false ∧ after.world.channel.fenced = true ∧
      10000 ≤ after.world.channel.watermark ∧ 1 ∉ after.world.late := by
  obtain ⟨before, after, run, step, moved⟩ := Config.exec_steps (Restoring atLeast) ⟨.initial, supersededCalls⟩ absorbed
    1 .plain (fun before after => (1 ∈ before.paid ∧ (1, 10000) ∈ before.accepted ∧ before.channel.voucher = none) ∧
      (before.channel.fenced = false ∧ before.channel.watermark = 10000) ∧ after.channel.fenced ∧ 1 ∈ after.paid) (by rfl)
  obtain ⟨⟨paid, accepted, unstored⟩, ⟨unfenced, level⟩, fenced, still⟩ := of_decide_eq_true moved
  obtain ⟨first, late⟩ := fence_first atLeast (fun _ _ _ accepts => of_decide_eq_true accepts) supersededCalls
    supersededCalls_members run step
  refine ⟨before, after, step, unfenced, fenced, ?_, fun lost => late 1 lost still⟩
  exact first 1 paid 10000 accepted (uncovered_of_unstored unstored) unfenced (Int.le_of_eq level.symm)

/-- The first call reads the watermark and stalls past its lock; the second one is accepted and paid. Then the
voucher of the first is accepted on top, and it finds its lock lost. -/
private def superseded : List (ℕ × SettleChoice) :=
  replicate 7 (0, .plain) ++ replicate 11 (1, { call := { now := 300000 } }) ++
    replicate 3 (0, { call := { now := 300000 } })

/-- The rollback of a superseded call restores the watermark that it read before the other call was accepted: below
the amount of that call, which is paid, not covered, and stopped by no fence. -/
theorem fence_too_late : ¬ ∀ verifier : Verifier,
    (∀ watermark priceRaw credential, verifier watermark priceRaw credential = true ↔
      watermark + priceRaw ≤ credential.amount) →
    ∀ threads : ℕ → Prog SettleAction SettleAction.Answer Unit, (∀ tid, IsChannelThread (threads tid)) →
      ∀ before after : (settleMachine verifier).Config,
        Run (unrestricted (settleMachine verifier)) ⟨.initial, threads⟩ before →
        Step (unrestricted (settleMachine verifier)) before after →
          FenceFirst before.world after.world ∧ ∀ tid ∈ after.world.late, tid ∉ after.world.paid := by
  intro always
  obtain ⟨before, after, run, step, moved⟩ := Config.exec_steps (unrestricted (settleMachine atLeast))
    ⟨.initial, supersededCalls⟩ superseded 0 .plain
    (fun before after => (1 ∈ before.paid ∧ (1, 10000) ∈ before.accepted ∧ before.channel.voucher = none) ∧
      (before.channel.fenced = false ∧ before.channel.watermark = 20000) ∧ after.channel.watermark = 0) (by rfl)
  obtain ⟨⟨paid, accepted, unstored⟩, ⟨unfenced, high⟩, low⟩ := of_decide_eq_true moved
  have first := (always atLeast (fun _ _ _ => decide_eq_true_iff) supersededCalls supersededCalls_members before after
    run step).1 1 paid 10000 accepted (uncovered_of_unstored unstored) unfenced (by rw [high]; decide)
  rw [low] at first
  exact absurd first (by decide)

end Superseded

end MppRouter.Playground.Channel
