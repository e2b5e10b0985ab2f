import MppRouter.Proxy.JobBooks

/-! # A rollback and the vouchers of others

A rollback tells its voucher by the amount alone. While the channel's delivery lock is the one of the voucher's
own call, nobody else's voucher can be on top, and the amount is enough. Once the lock has gone to another call,
a repeated rollback can meet the same amount again.
-/

namespace MppRouter.Proxy

open Concurrent Machine Mpp Refund Routes Throwing Typestate Function List Option

/-! ## The vouchers that stand -/

/-- What was accepted and not rolled back, newest first. -/
def standing : List ChannelEvent → List Acceptance
  | [] => []
  | .accepted acceptance :: older => acceptance :: standing older
  | .rolledBack _ _ _ _ :: older => (standing older).tail

def topAmount (stack : List Acceptance) : ℕ := stack.head?.elim 0 Acceptance.amount

/-- Each acceptance raises the amount, and each rollback undoes the one on top. -/
inductive Lawful : List ChannelEvent → Prop
  | nil : Lawful []
  | accepted {log : List ChannelEvent} {acceptance : Acceptance} (older : Lawful log)
      (replaced : acceptance.replaced = topAmount (standing log)) (raises : topAmount (standing log) < acceptance.amount) :
      Lawful (.accepted acceptance :: log)
  | rolledBack {log : List ChannelEvent} {acceptance : Acceptance} (older : Lawful log)
      (top : (standing log).head? = some acceptance) :
      Lawful (.rolledBack acceptance.lockId acceptance.challengeId acceptance.amount acceptance.replaced :: log)

/-- Each voucher of a stack replaced the amount of the one below. -/
def Stacked : List Acceptance → Prop
  | [] => True
  | acceptance :: below =>
    acceptance.replaced = topAmount below ∧ topAmount below < acceptance.amount ∧ Stacked below

variable {stack : List Acceptance}

theorem Stacked.le_top (stacked : Stacked stack) {acceptance : Acceptance}
    (member : acceptance ∈ stack) : acceptance.amount ≤ topAmount stack := by
  induction stack with
  | nil => cases member
  | cons top below ih =>
    rcases mem_cons.mp member with rfl | lower
    · exact le_rfl
    · exact (ih stacked.2.2 lower).trans stacked.2.1.le

theorem Stacked.tail (stacked : Stacked stack) : Stacked stack.tail := by
  cases stack with
  | nil => exact stacked
  | cons top below => exact stacked.2.2

theorem Stacked.below (stacked : Stacked stack) {acceptance : Acceptance} (top : stack.head? = some acceptance) :
    topAmount stack.tail = acceptance.replaced ∧ acceptance.replaced < acceptance.amount ∧
      topAmount stack = acceptance.amount := by
  cases stack with
  | nil => cases top
  | cons first below =>
    cases top
    refine ⟨stacked.1.symm, ?_, rfl⟩
    rw [stacked.1]
    exact stacked.2.1

namespace Lawful

variable {log newer older : List ChannelEvent}

theorem stacked (lawful : Lawful log) : Stacked (standing log) := by
  induction lawful with
  | nil => trivial
  | accepted _ replaced raises ih => exact ⟨replaced, raises, ih⟩
  | rolledBack _ _ ih => exact ih.tail

theorem suffix (lawful : Lawful (newer ++ older)) : Lawful older := by
  induction newer with
  | nil => exact lawful
  | cons event rest ih =>
    apply ih
    cases lawful with
    | accepted older => exact older
    | rolledBack older => exact older

/-- What was accepted stands, or its call's voucher was rolled back. -/
theorem stands (lawful : Lawful log) {acceptance : Acceptance} (member : .accepted acceptance ∈ log) :
    acceptance ∈ standing log ∨
      ∃ challengeId before after, .rolledBack acceptance.lockId challengeId before after ∈ log := by
  induction lawful with
  | nil => cases member
  | accepted _ _ _ ih =>
    rcases mem_cons.mp member with same | earlier
    · cases same
      exact .inl mem_cons_self
    · rcases ih earlier with stands | ⟨challengeId, before, after, undone⟩
      · exact .inl (mem_cons_of_mem _ stands)
      · exact .inr ⟨challengeId, before, after, mem_cons_of_mem _ undone⟩
  | @rolledBack log top _ onTop ih =>
    rcases mem_cons.mp member with same | earlier
    · cases same
    · rcases ih earlier with stands | ⟨challengeId, before, after, undone⟩
      · cases stack : standing log with
        | nil =>
          rw [stack] at stands
          cases stands
        | cons first below =>
          rw [stack] at onTop stands
          cases onTop
          rcases mem_cons.mp stands with rfl | lower
          · exact .inr ⟨_, _, _, mem_cons_self⟩
          · refine .inl ?_
            simpa [standing, stack] using lower
      · exact .inr ⟨challengeId, before, after, mem_cons_of_mem _ undone⟩

/-- A rollback leaves the amount at or above that of every other voucher that was not rolled back. -/
theorem spares {lockId : Uuid} {challengeId : String} {before after : ℕ}
    (lawful : Lawful (.rolledBack lockId challengeId before after :: older)) {acceptance : Acceptance}
    (accepted : .accepted acceptance ∈ older) (other : acceptance.challengeId ≠ challengeId)
    (kept : ∀ challengeId before after, .rolledBack acceptance.lockId challengeId before after ∉ older) :
    acceptance.amount ≤ after := by
  cases lawful with | @rolledBack _ top lawful onTop => ?_
  rcases lawful.stands accepted with stands | ⟨challengeId, before, after, undone⟩
  · obtain ⟨below, -, -⟩ := lawful.stacked.below onTop
    cases stack : standing older with
    | nil =>
      rw [stack] at stands
      cases stands
    | cons first rest =>
      rw [stack] at onTop stands below
      cases onTop
      rcases mem_cons.mp stands with rfl | lower
      · exact absurd rfl other
      · rw [← below]
        have stacked : Stacked rest := (stack ▸ lawful.stacked).2.2
        exact stacked.le_top lower
  · exact absurd undone (kept challengeId before after)

end Lawful

/-! ## The books of the channels -/

def ChannelDelivery.acceptance (delivery : ChannelDelivery) : Acceptance :=
  ⟨delivery.lockId, delivery.challengeId, delivery.acceptedAmount, delivery.previousAmount⟩

namespace World

variable (world : World)

def Accepted (channelContract : String) (acceptance : Acceptance) : Prop :=
  .accepted acceptance ∈ world.channelLog channelContract

/-- The voucher of this call was rolled back. -/
def Undone (lockId : Uuid) : Prop :=
  ∃ channelContract challengeId before after,
    .rolledBack lockId challengeId before after ∈ world.channelLog channelContract

/-- A job of this call is stored. -/
def Pending (lockId : Uuid) : Prop :=
  ∃ jobId record delivery, world.Stored jobId record ∧ record.channelDelivery = some delivery ∧ delivery.lockId = lockId

/-- The call was answered with what the merchant delivered, or its job was found delivered. -/
def Delivered (lockId : Uuid) : Prop :=
  (∃ answered ∈ world.answers, answered.lockId = lockId ∧ answered.response.delivers = true) ∨
    ∃ counted ∈ world.counted, counted.outcome = .delivered ∧
      ∃ delivery, counted.record.channelDelivery = some delivery ∧ delivery.lockId = lockId

/-- A rollback never lowers the cumulative amount below what was accepted under another challenge for a call
that was answered as delivered. -/
def SparesOthers : Prop :=
  ∀ channelContract newer lockId challengeId before after older,
    world.channelLog channelContract = newer ++ .rolledBack lockId challengeId before after :: older →
    ∀ acceptance, .accepted acceptance ∈ older → acceptance.challengeId ≠ challengeId →
      world.Delivered acceptance.lockId → acceptance.amount ≤ after ∨ before < acceptance.amount

end World

structure VoucherBooks (world : World) : Prop where
  lawful : ∀ channelContract, Lawful (world.channelLog channelContract)
  amount : ∀ channelContract,
    topAmount (standing (world.channelLog channelContract)) = cumulativeAmount (world.cumulative channelContract)
  undone : ∀ lockId, world.Undone lockId → ¬ world.Delivered lockId
  jobs : ∀ jobId record delivery jobId' record' delivery', world.Stored jobId record → world.Stored jobId' record' →
    record.channelDelivery = some delivery → record'.channelDelivery = some delivery' →
    delivery.lockId = delivery'.lockId → jobId = jobId' ∧ record = record'
  counted : ∀ counted ∈ world.counted, ∃ jobId, counted.key = counted.record.terminalKey jobId ∧
    world.Stored jobId counted.record ∧ world.outcome counted.key = some counted.outcome
  unanswered : ∀ answered ∈ world.answers, world.Pending answered.lockId → answered.response.delivers = false
  failed : ∀ jobId record delivery, world.Stored jobId record → record.channelDelivery = some delivery →
    world.Undone delivery.lockId → world.outcome (record.terminalKey jobId) = some .failed
  accepted : ∀ jobId record delivery, world.Stored jobId record → record.channelDelivery = some delivery →
    world.Accepted delivery.channelContract delivery.acceptance
  /-- What the holder of the lock had accepted is on top, unless it was rolled back. -/
  holder : ∀ channelContract lockId, world.locks channelContract = some lockId →
    ∀ acceptance, world.Accepted channelContract acceptance → acceptance.lockId = lockId →
      (standing (world.channelLog channelContract)).head? = some acceptance ∨
        cumulativeAmount (world.cumulative channelContract) < acceptance.amount
  minted : ∀ channelContract acceptance, world.Accepted channelContract acceptance →
    acceptance.lockId.serial < world.minted
  answered : ∀ answered ∈ world.answers, answered.lockId.serial < world.minted
  rolledBack : ∀ lockId, world.Undone lockId → lockId.serial < world.minted

/-- What a thread leaves to the calls of others. -/
structure VoucherMoves (tid : ℕ) (before after : World) : Prop where
  outcome : ∀ key outcome, before.outcome key = some outcome → after.outcome key = some outcome
  stored : ∀ jobId record, before.Stored jobId record → after.Stored jobId record
  pending : ∀ lockId, after.Pending lockId → before.Pending lockId ∨ lockId.owner = tid
  answers : ∀ answered ∈ after.answers, answered ∈ before.answers ∨ answered.lockId.owner = tid
  accepted : ∀ channelContract acceptance, before.Accepted channelContract acceptance →
    after.Accepted channelContract acceptance
  presented : ∀ channelContract acceptance, after.Accepted channelContract acceptance →
    before.Accepted channelContract acceptance ∨ acceptance.lockId.owner = tid
  undone : ∀ lockId, after.Undone lockId → before.Undone lockId ∨ lockId.owner = tid ∨ before.Pending lockId
  locks : ∀ channelContract lockId, after.locks channelContract = some lockId → lockId.owner ≠ tid →
    before.locks channelContract = some lockId ∧ (after.cumulative channelContract = before.cumulative channelContract ∨
      ∃ acceptance, before.Accepted channelContract acceptance ∧ acceptance.lockId = lockId)
  minted : before.minted ≤ after.minted

/-- What a thread knows of the call at work. -/
structure CallKnows (tid : ℕ) (phase : JobPhase) (lockId : Uuid) (world : World) : Prop where
  owner : lockId.owner = tid
  minted : lockId.serial < world.minted
  unanswered : ∀ answered ∈ world.answers, answered.lockId ≠ lockId
  unstored : phase.stored = false → ¬ world.Pending lockId
  standing : phase.stored = false → phase.undone = false → ¬ world.Undone lockId
  unused : phase.presented = false → ∀ channelContract acceptance, world.Accepted channelContract acceptance →
    acceptance.lockId ≠ lockId
  previous : phase.presented = false → ∀ channelContract amount, phase.previous = some (channelContract, amount) →
    world.locks channelContract = some lockId → cumulativeAmount (world.cumulative channelContract) = amount

structure VoucherKnows (tid : ℕ) (phase : JobPhase) (world : World) : Prop where
  read : ∀ jobId record, phase.read = some (jobId, record) → world.Stored jobId record
  claim : ∀ claim, phase.claim = some claim →
    world.Stored claim.jobId claim.record ∧ world.outcome claim.key = some claim.outcome
  vouched : ∀ delivery, phase.vouched = some delivery → world.Accepted delivery.channelContract delivery.acceptance
  call : ∀ lockId, phase.lockId = some lockId → CallKnows tid phase lockId world

/-- Vouchers are accepted and rolled back only while the delivery lock of the channel is that of their own call,
and no job is stored whose handler is told otherwise. -/
def locksTruly : proxyMachine.Admits := fun _ action choice world =>
  match action with
  | .verifyVoucher channelContract lockId _ _ _ => choice.fault ≠ .failed → choice.verified ≠ .rejected →
      world.locks channelContract = some lockId
  | .rollbackCumulative delivery => choice.fault ≠ .failed →
      delivery.rollbackCumulative (world.cumulative delivery.channelContract) ≠ none →
      world.locks delivery.channelContract = some delivery.lockId
  | .putJob _ _ => choice.fault ≠ .lost
  | _ => True

def voucherProtocol : Protocol proxyMachine := ⟨VoucherBooks, VoucherMoves⟩

/-! ## The steps -/

section Steps

variable {tid : ℕ} {phase : JobPhase} {world after : World} {choice : Choice}

theorem VoucherMoves.refl (tid : ℕ) (world : World) : VoucherMoves tid world world where
  outcome _ _ := id
  stored _ _ := id
  pending _ := .inl
  answers _ := .inl
  accepted _ _ := id
  presented _ _ := .inl
  undone _ := .inl
  locks _ _ held _ := ⟨held, .inl rfl⟩
  minted := le_rfl

variable {lockId : Uuid}

theorem CallKnows.stable {other : ℕ} (distinct : other ≠ tid) (knows : CallKnows tid phase lockId world)
    (moves : VoucherMoves other world after) : CallKnows tid phase lockId after where
  owner := knows.owner
  minted := knows.minted.trans_le moves.minted
  unanswered answered member same := by
    rcases moves.answers answered member with old | foreign
    · exact knows.unanswered answered old same
    · rw [same, knows.owner] at foreign
      exact distinct foreign.symm
  unstored unstored pending := by
    rcases moves.pending lockId pending with old | foreign
    · exact knows.unstored unstored old
    · exact distinct (foreign.symm.trans knows.owner)
  standing unstored undone rolledBack := by
    rcases moves.undone lockId rolledBack with old | foreign | pending
    · exact knows.standing unstored undone old
    · exact distinct (foreign.symm.trans knows.owner)
    · exact knows.unstored unstored pending
  unused unused channelContract acceptance accepted same := by
    rcases moves.presented channelContract acceptance accepted with old | foreign
    · exact knows.unused unused channelContract acceptance old same
    · rw [same, knows.owner] at foreign
      exact distinct foreign.symm
  previous unused channelContract amount read held := by
    obtain ⟨was, unchanged | ⟨acceptance, accepted, same⟩⟩ := moves.locks channelContract lockId held
      (fun foreign => distinct (foreign.symm.trans knows.owner))
    · rw [unchanged]
      exact knows.previous unused channelContract amount read was
    · exact absurd same (knows.unused unused channelContract acceptance accepted)

theorem VoucherKnows.stable (phase : JobPhase) : voucherProtocol.Stable tid (VoucherKnows tid phase) := by
  rintro other before after distinct - - moves knows
  constructor
  · intro jobId record read
    exact moves.stored jobId record (knows.read jobId record read)
  · intro claim claimed
    exact ⟨moves.stored _ _ (knows.claim claim claimed).1, moves.outcome _ _ (knows.claim claim claimed).2⟩
  · intro delivery vouched
    exact moves.accepted _ _ (knows.vouched delivery vouched)
  · intro lockId own
    exact (knows.call lockId own).stable distinct moves

/-- What a thread's own step leaves of its knowledge, but for the call at work. -/
theorem VoucherKnows.carry (knows : VoucherKnows tid phase world) (moves : VoucherMoves tid world after)
    {later : JobPhase} (read : later.read = phase.read) (claim : later.claim = phase.claim)
    (vouched : later.vouched = phase.vouched)
    (call : ∀ lockId, later.lockId = some lockId → CallKnows tid later lockId after) : VoucherKnows tid later after where
  read jobId record was := moves.stored jobId record (knows.read jobId record (read.symm.trans was))
  claim made was :=
    have known := knows.claim made (claim.symm.trans was)
    ⟨moves.stored _ _ known.1, moves.outcome _ _ known.2⟩
  vouched delivery was := moves.accepted _ _ (knows.vouched delivery (vouched.symm.trans was))
  call := call

/-- A claim finds failed what was rolled back, and delivered only what was not. -/
theorem claim_vouchers (tid : ℕ) (books : VoucherBooks world) (outcome : Outcome) {jobId : String}
    {record : JobAuthRecord} (read : world.Stored jobId record) :
    VoucherBooks (world.claimTerminal (record.terminalKey jobId) outcome record).2 ∧
      VoucherMoves tid world (world.claimTerminal (record.terminalKey jobId) outcome record).2 ∧
      ((world.claimTerminal (record.terminalKey jobId) outcome record).1 ≠ .conflict →
        (world.claimTerminal (record.terminalKey jobId) outcome record).2.outcome (record.terminalKey jobId) = some outcome) := by
  set key := record.terminalKey jobId with keyIs
  set after := (world.claimTerminal key outcome record).2 with afterIs
  obtain ⟨terminal, terminals, cons, -, agrees, -⟩ : ∃ terminal : AsyncTerminal,
      after.terminals = update world.terminals key (some terminal) ∧
      after.counted = ⟨key, record, terminal.outcome, (world.claimedFor key).getD record⟩ :: world.counted ∧ _ :=
    claimTerminal_spec key outcome record
  have known : ∀ other found, world.outcome other = some found → after.outcome other = some found :=
    fun _ _ => claimTerminal_outcome
  have found : after.outcome key = some terminal.outcome := by
    simp [World.outcome, terminals]
  refine ⟨{ books with undone := ?_, counted := ?_, failed := ?_ }, { VoucherMoves.refl tid world with outcome := known },
    fun agreed => found.trans (congrArg some (agrees agreed))⟩
  · rintro lockId undone (answered | ⟨counted, member, delivered, delivery, of, same⟩)
    · exact books.undone lockId undone (.inl answered)
    · rw [cons] at member
      rcases mem_cons.mp member with rfl | old
      · subst same
        have failed := known _ _ (books.failed jobId record delivery read of undone)
        rw [found, show terminal.outcome = .delivered from delivered] at failed
        cases failed
      · exact books.undone lockId undone (.inr ⟨counted, old, delivered, delivery, of, same⟩)
  · intro counted member
    rw [cons] at member
    rcases mem_cons.mp member with rfl | old
    · exact ⟨jobId, rfl, read, found⟩
    · obtain ⟨other, named, stored, was⟩ := books.counted counted old
      exact ⟨other, named, stored, known _ _ was⟩
  · intro other record' delivery stored of undone
    exact known _ _ (books.failed other record' delivery stored of undone)

theorem putTerminal_vouchers (tid : ℕ) (books : VoucherBooks world) {key : TerminalKey} {outcome : Outcome}
    (known : world.outcome key = some outcome) :
    VoucherBooks { world with terminals := update world.terminals key (some ⟨outcome, .done⟩) } ∧
      VoucherMoves tid world { world with terminals := update world.terminals key (some ⟨outcome, .done⟩) } := by
  have same : ∀ other, World.outcome
      { world with terminals := update world.terminals key (some ⟨outcome, .done⟩) } other = world.outcome other := by
    intro other
    by_cases same : other = key
    · subst same
      rw [known]
      simp [World.outcome]
    · simp [World.outcome, same]
  refine ⟨{ books with counted := ?_, failed := ?_ },
    { VoucherMoves.refl tid world with outcome := fun other found was => (same other).trans was }⟩
  · intro counted member
    obtain ⟨other, named, stored, was⟩ := books.counted counted member
    exact ⟨other, named, stored, (same _).trans was⟩
  · intro other record delivery stored of undone
    exact (same _).trans (books.failed other record delivery stored of undone)

theorem releaseLock_frame (channelContract : String) (lockId : Uuid) :
    ∃ locks, world.releaseLock channelContract lockId = { world with locks } := by
  unfold World.releaseLock
  split <;> exact ⟨_, rfl⟩

theorem releaseLock_vouchers (tid : ℕ) (books : VoucherBooks world) (channelContract : String) (lockId : Uuid) :
    VoucherBooks (world.releaseLock channelContract lockId) ∧
      VoucherMoves tid world (world.releaseLock channelContract lockId) ∧
      ∀ contract holder, (world.releaseLock channelContract lockId).locks contract = some holder →
        world.locks contract = some holder := by
  unfold World.releaseLock
  split
  · have held : ∀ contract holder, update world.locks channelContract none contract = some holder →
        world.locks contract = some holder := by
      intro contract holder held
      by_cases same : contract = channelContract
      · subst same
        simp at held
      · simpa [same] using held
    exact ⟨{ books with holder := fun contract holder owns => books.holder contract holder (held contract holder owns) },
      { VoucherMoves.refl tid world with locks := fun contract holder owns _ => ⟨held contract holder owns, .inl rfl⟩ }, held⟩
  · exact ⟨books, .refl tid world, fun _ _ => id⟩

/-- A call that has presented nothing takes the lock. -/
theorem acquireLock_vouchers (books : VoucherBooks world) (channelContract : String)
    (knows : CallKnows tid phase lockId world) (unused : phase.presented = false) :
    VoucherBooks { world with locks := update world.locks channelContract (some lockId) } ∧
      VoucherMoves tid world { world with locks := update world.locks channelContract (some lockId) } := by
  refine ⟨{ books with holder := ?_ }, { VoucherMoves.refl tid world with locks := ?_ }⟩
  · intro contract holder owns acceptance accepted same
    by_cases here : contract = channelContract
    · subst here
      cases (update_self ..).symm.trans owns
      exact absurd same (knows.unused unused contract acceptance accepted)
    · have owns : world.locks contract = some holder := (update_of_ne here ..).symm.trans owns
      exact books.holder contract holder owns acceptance accepted same
  · intro contract holder owns foreign
    by_cases here : contract = channelContract
    · subst here
      cases (update_self ..).symm.trans owns
      exact absurd knows.owner foreign
    · exact ⟨(update_of_ne here ..).symm.trans owns, .inl rfl⟩

theorem expire_pending {jobId : String} (pending : World.Pending
      { world with jobs := update world.jobs jobId (none :: world.jobs jobId) } lockId) :
    world.Pending lockId := by
  obtain ⟨other, record, delivery, stored, of, same⟩ := pending
  exact ⟨other, record, delivery, (expire_stored ..).mp stored, of, same⟩

theorem expire_vouchers (tid : ℕ) (books : VoucherBooks world) (jobId : String) :
    VoucherBooks { world with jobs := update world.jobs jobId (none :: world.jobs jobId) } ∧
      VoucherMoves tid world { world with jobs := update world.jobs jobId (none :: world.jobs jobId) } := by
  refine ⟨{ books with jobs := ?_, counted := ?_, unanswered := ?_, failed := ?_, accepted := ?_ },
    { VoucherMoves.refl tid world with
      stored := fun other record => (expire_stored jobId other record).mpr
      pending := fun _ now => .inl (expire_pending now) }⟩
  · intro other record delivery other' record' delivery' stored stored'
    exact books.jobs _ _ _ _ _ _ ((expire_stored ..).mp stored) ((expire_stored ..).mp stored')
  · intro counted member
    obtain ⟨other, named, stored, was⟩ := books.counted counted member
    exact ⟨other, named, (expire_stored ..).mpr stored, was⟩
  · intro answered member now
    exact books.unanswered answered member (expire_pending now)
  · intro other record delivery stored
    exact books.failed _ _ _ ((expire_stored ..).mp stored)
  · intro other record delivery stored
    exact books.accepted _ _ _ ((expire_stored ..).mp stored)

variable {delivery : ChannelDelivery}

/-- Who rolls a voucher back: its own call, before a job of it is stored, or a run that claimed its job failed. -/
def MayUndo (tid : ℕ) (world : World) (delivery : ChannelDelivery) : Prop :=
  (delivery.lockId.owner = tid ∧ ¬ world.Pending delivery.lockId ∧
      ∀ answered ∈ world.answers, answered.lockId ≠ delivery.lockId) ∨
    ∃ jobId record, world.Stored jobId record ∧ record.channelDelivery = some delivery ∧
      world.outcome (record.terminalKey jobId) = some .failed

/-- A voucher that may be rolled back was not delivered. -/
theorem MayUndo.undelivered (may : MayUndo tid world delivery) (books : VoucherBooks world) :
    ¬ world.Delivered delivery.lockId := by
  rintro (⟨answered, member, same, delivers⟩ | ⟨counted, member, delivered, other, of, same⟩)
  · rcases may with ⟨-, -, unanswered⟩ | ⟨jobId, record, stored, has, -⟩
    · exact unanswered answered member same
    · have quiet := books.unanswered answered member (same ▸ ⟨jobId, record, delivery, stored, has, rfl⟩)
      rw [quiet] at delivers
      cases delivers
  · obtain ⟨jobId', named, stored', was⟩ := books.counted counted member
    rcases may with ⟨-, unstored, -⟩ | ⟨jobId, record, stored, has, failed⟩
    · exact unstored ⟨jobId', counted.record, other, stored', of, same⟩
    · obtain ⟨rfl, rfl⟩ := books.jobs _ _ _ _ _ _ stored' stored of has same
      rw [named, failed, delivered] at was
      cases was

theorem rollback_frame (delivery : ChannelDelivery) :
    ∃ cumulative channelLog, (world.rollback delivery).2 = { world with cumulative, channelLog } := by
  unfold World.rollback
  split <;> exact ⟨_, _, rfl⟩

variable {channelContract : String}

theorem rollback_accepted {acceptance : Acceptance} :
    (world.rollback delivery).2.Accepted channelContract acceptance ↔ world.Accepted channelContract acceptance := by
  unfold World.rollback
  split
  · rfl
  · by_cases here : channelContract = delivery.channelContract
    · subst here
      simp [World.Accepted]
    · simp [World.Accepted, here]

theorem rollback_undone
    (undone : (world.rollback delivery).2.Undone lockId) : world.Undone lockId ∨ lockId = delivery.lockId := by
  unfold World.rollback at undone
  split at undone
  · exact .inl undone
  · obtain ⟨contract, challengeId, before, lower, member⟩ := undone
    by_cases here : contract = delivery.channelContract
    · subst here
      simp only [update_self, mem_cons, ChannelEvent.rolledBack.injEq] at member
      rcases member with ⟨same, -⟩ | old
      · exact .inr same
      · exact .inl ⟨_, _, _, _, old⟩
    · simp only [update_of_ne here] at member
      exact .inl ⟨_, _, _, _, member⟩

/-- A rollback without effect, or of another channel, leaves the amount. -/
theorem rollback_amount
    (apart : delivery.rollbackCumulative (world.cumulative delivery.channelContract) ≠ none →
      channelContract ≠ delivery.channelContract) :
    (world.rollback delivery).2.cumulative channelContract = world.cumulative channelContract := by
  unfold World.rollback
  split
  · rfl
  next rolled => exact update_of_ne (apart (by rw [rolled]; nofun)) ..

/-- The holder of the lock rolls back what is on top. -/
theorem rollback_vouchers (books : VoucherBooks world)
    (accepted : world.Accepted delivery.channelContract delivery.acceptance) (may : MayUndo tid world delivery)
    (locked : delivery.rollbackCumulative (world.cumulative delivery.channelContract) ≠ none →
      world.locks delivery.channelContract = some delivery.lockId) :
    VoucherBooks (world.rollback delivery).2 ∧ VoucherMoves tid world (world.rollback delivery).2 := by
  unfold World.rollback
  split
  · exact ⟨books, .refl tid world⟩
  next restored rolled =>
    have held := locked (by rw [rolled]; nofun)
    obtain ⟨was, becomes, -⟩ := rollbackCumulative_some rolled
    have top : (standing (world.channelLog delivery.channelContract)).head? = some delivery.acceptance := by
      rcases books.holder _ _ held _ accepted rfl with top | lower
      · exact top
      · rw [was] at lower
        exact absurd lower (lt_irrefl _)
    obtain ⟨below, lowers, -⟩ := (books.lawful delivery.channelContract).stacked.below top
    set after : World := { world with
      cumulative := update world.cumulative delivery.channelContract restored
      channelLog := update world.channelLog delivery.channelContract
        (delivery.rollback :: world.channelLog delivery.channelContract) } with afterIs
    have log : after.channelLog delivery.channelContract = delivery.rollback :: world.channelLog delivery.channelContract :=
      update_self ..
    have rolledIs : (world.rollback delivery).2 = after := by
      simp only [World.rollback, rolled]
      rfl
    have sameAccepted : ∀ contract acceptance, after.Accepted contract acceptance ↔ world.Accepted contract acceptance :=
      fun _ _ => rolledIs ▸ rollback_accepted
    have undone : ∀ lockId, after.Undone lockId → world.Undone lockId ∨ lockId = delivery.lockId :=
      fun _ now => rollback_undone (rolledIs ▸ now)
    have undelivered := may.undelivered books
    show VoucherBooks after ∧ VoucherMoves tid world after
    refine ⟨{ books with lawful := ?_, amount := ?_, undone := ?_, failed := ?_, accepted := ?_, holder := ?_, minted := ?_, rolledBack := ?_ },
      { VoucherMoves.refl tid world with accepted := ?_, presented := ?_, undone := ?_, locks := ?_ }⟩
    · intro contract
      by_cases here : contract = delivery.channelContract
      · subst here
        rw [log]
        exact .rolledBack (books.lawful _) top
      · rw [show after.channelLog contract = world.channelLog contract from update_of_ne here ..]
        exact books.lawful contract
    · intro contract
      by_cases here : contract = delivery.channelContract
      · subst here
        rw [log, show after.cumulative delivery.channelContract = restored from update_self .., becomes]
        exact below
      · rw [show after.channelLog contract = world.channelLog contract from update_of_ne here ..,
          show after.cumulative contract = world.cumulative contract from update_of_ne here ..]
        exact books.amount contract
    · intro lockId now
      rcases undone lockId now with old | rfl
      · exact books.undone lockId old
      · exact undelivered
    · intro jobId record other stored of now
      rcases undone _ now with old | same
      · exact books.failed jobId record other stored of old
      · rcases may with ⟨-, unstored, -⟩ | ⟨jobId', record', stored', has, failed⟩
        · exact absurd ⟨jobId, record, other, stored, of, same⟩ unstored
        · obtain ⟨rfl, rfl⟩ := books.jobs _ _ _ _ _ _ stored stored' of has same
          exact failed
    · intro jobId record other stored of
      exact (sameAccepted _ _).mpr (books.accepted jobId record other stored of)
    · intro contract lockId owns acceptance was' same
      have was' := (sameAccepted _ _).mp was'
      by_cases here : contract = delivery.channelContract
      · subst here
        cases held.symm.trans owns
        right
        rw [show after.cumulative delivery.channelContract = restored from update_self .., becomes]
        rcases books.holder _ _ held acceptance was' same with onTop | lower
        · cases top.symm.trans onTop
          exact lowers
        · rw [was] at lower
          exact lowers.trans lower
      · rw [show after.channelLog contract = world.channelLog contract from update_of_ne here ..,
          show after.cumulative contract = world.cumulative contract from update_of_ne here ..]
        exact books.holder contract lockId owns acceptance was' same
    · intro contract acceptance now
      exact books.minted contract acceptance ((sameAccepted _ _).mp now)
    · intro lockId now
      rcases undone lockId now with old | rfl
      · exact books.rolledBack lockId old
      · exact books.minted _ _ accepted
    · intro contract acceptance
      exact (sameAccepted contract acceptance).mpr
    · intro contract acceptance now
      exact .inl ((sameAccepted contract acceptance).mp now)
    · intro lockId now
      rcases undone lockId now with old | rfl
      · exact .inl old
      · rcases may with ⟨own, -⟩ | ⟨jobId, record, stored, has, -⟩
        · exact .inr (.inl own)
        · exact .inr (.inr ⟨jobId, record, delivery, stored, has, rfl⟩)
    · intro contract lockId owns _
      refine ⟨owns, ?_⟩
      by_cases here : contract = delivery.channelContract
      · subst here
        cases held.symm.trans owns
        exact .inr ⟨delivery.acceptance, accepted, rfl⟩
      · exact .inl (update_of_ne here ..)

theorem accept_undone {other : Uuid} {challengeId : String} {amount : ℕ} {action : ChannelAction}
    (undone : (world.acceptVoucher channelContract lockId challengeId amount action).Undone other) :
    world.Undone other := by
  obtain ⟨contract, challenge, before, lower, member⟩ := undone
  by_cases here : contract = channelContract
  · subst here
    simp only [World.acceptVoucher, update_self, mem_cons, reduceCtorEq, false_or] at member
    exact ⟨_, _, _, _, member⟩
  · simp only [World.acceptVoucher, update_of_ne here] at member
    exact ⟨_, _, _, _, member⟩

/-- A call whose credential was presented has nothing to say of what it read before. -/
theorem CallKnows.presents (knows : CallKnows tid phase lockId world) {later : JobPhase}
    (presented : later.presented = true) (stored : later.stored = phase.stored) (undone : later.undone = phase.undone) :
    CallKnows tid later lockId world where
  owner := knows.owner
  minted := knows.minted
  unanswered := knows.unanswered
  unstored unstored := knows.unstored (stored.symm.trans unstored)
  standing unstored standing := knows.standing (stored.symm.trans unstored) (undone.symm.trans standing)
  unused unused := absurd (presented.symm.trans unused) nofun
  previous unused := absurd (presented.symm.trans unused) nofun

/-- A credential is accepted for the call that holds the lock, on top of all that stands. -/
theorem acceptVoucher_vouchers (books : VoucherBooks world) (action : ChannelAction)
    {challengeId : String} {amount : ℕ} (knows : CallKnows tid phase lockId world)
    (unused : phase.presented = false) (held : world.locks channelContract = some lockId)
    (acceptable : world.acceptable channelContract challengeId amount = true) :
    VoucherBooks (world.acceptVoucher channelContract lockId challengeId amount action) ∧
      VoucherMoves tid world (world.acceptVoucher channelContract lockId challengeId amount action) ∧
      World.Accepted (world.acceptVoucher channelContract lockId challengeId amount action) channelContract
        ⟨lockId, challengeId, amount, cumulativeAmount (world.cumulative channelContract)⟩ := by
  set acceptance : Acceptance :=
    ⟨lockId, challengeId, amount, cumulativeAmount (world.cumulative channelContract)⟩ with acceptanceIs
  set after := world.acceptVoucher channelContract lockId challengeId amount action with afterIs
  have raises : cumulativeAmount (world.cumulative channelContract) < amount := by
    simp only [World.acceptable, Bool.and_eq_true, decide_eq_true_eq] at acceptable
    exact acceptable.1.1
  have log : after.channelLog channelContract = .accepted acceptance :: world.channelLog channelContract :=
    update_self ..
  have others : ∀ contract, contract ≠ channelContract → after.channelLog contract = world.channelLog contract :=
    fun contract here => update_of_ne here ..
  have sameAccepted : ∀ contract other, after.Accepted contract other →
      world.Accepted contract other ∨ contract = channelContract ∧ other = acceptance := by
    intro contract other now
    by_cases here : contract = channelContract
    · subst here
      simp only [World.Accepted, log, mem_cons, ChannelEvent.accepted.injEq] at now
      rcases now with rfl | old
      · exact .inr ⟨rfl, rfl⟩
      · exact .inl old
    · rw [World.Accepted, others contract here] at now
      exact .inl now
  have keepsAccepted : ∀ contract other, world.Accepted contract other → after.Accepted contract other := by
    intro contract other was
    by_cases here : contract = channelContract
    · subst here
      rw [World.Accepted, log]
      exact mem_cons_of_mem _ was
    · rw [World.Accepted, others contract here]
      exact was
  have undone : ∀ other, after.Undone other → world.Undone other := fun _ => accept_undone
  refine ⟨{ books with lawful := ?_, amount := ?_, undone := ?_, failed := ?_, accepted := ?_, holder := ?_, minted := ?_, rolledBack := ?_ },
    { VoucherMoves.refl tid world with accepted := keepsAccepted, presented := ?_, undone := ?_, locks := ?_ }, ?_⟩
  · intro contract
    by_cases here : contract = channelContract
    · subst here
      rw [log]
      refine .accepted (books.lawful _) (books.amount _).symm ?_
      rw [books.amount]
      exact raises
    · rw [others contract here]
      exact books.lawful contract
  · intro contract
    by_cases here : contract = channelContract
    · subst here
      rw [log, show after.cumulative contract = some ⟨amount, action = .close⟩ from update_self ..]
      rfl
    · rw [others contract here, show after.cumulative contract = world.cumulative contract from update_of_ne here ..]
      exact books.amount contract
  · intro other now
    exact books.undone other (undone other now)
  · intro jobId record delivery stored of now
    exact books.failed jobId record delivery stored of (undone _ now)
  · intro jobId record delivery stored of
    exact keepsAccepted _ _ (books.accepted jobId record delivery stored of)
  · intro contract holder owns other now same
    by_cases here : contract = channelContract
    · subst here
      cases held.symm.trans owns
      rcases sameAccepted _ _ now with old | ⟨-, rfl⟩
      · exact absurd same (knows.unused unused contract other old)
      · left
        rw [log]
        rfl
    · rcases sameAccepted _ _ now with old | ⟨away, -⟩
      · rw [others contract here, show after.cumulative contract = world.cumulative contract from update_of_ne here ..]
        exact books.holder contract holder owns other old same
      · exact absurd away here
  · intro contract other now
    rcases sameAccepted _ _ now with old | ⟨-, rfl⟩
    · exact books.minted contract other old
    · exact knows.minted
  · intro other now
    exact books.rolledBack other (undone other now)
  · intro contract other now
    rcases sameAccepted _ _ now with old | ⟨-, rfl⟩
    · exact .inl old
    · exact .inr knows.owner
  · intro other now
    exact .inl (undone other now)
  · intro contract holder owns foreign
    refine ⟨owns, .inl ?_⟩
    apply update_of_ne
    rintro rfl
    cases held.symm.trans owns
    exact foreign knows.owner
  · rw [World.Accepted, log]
    exact mem_cons_self

/-- A call that was not rolled back stores its job. -/
theorem putJob_vouchers (books : VoucherBooks world) (jobId : String) {record : JobAuthRecord}
    (acceptedJobs : List (String × JobAuthRecord))
    (own : ∀ delivery, record.channelDelivery = some delivery → CallKnows tid phase delivery.lockId world ∧
      world.Accepted delivery.channelContract delivery.acceptance)
    (unstored : phase.stored = false) (standing : phase.undone = false) :
    VoucherBooks { world.putJob jobId record with acceptedJobs } ∧
      VoucherMoves tid world { world.putJob jobId record with acceptedJobs } := by
  set after : World := { world.putJob jobId record with acceptedJobs } with afterIs
  have stored : ∀ other record', after.Stored other record' ↔ (other = jobId ∧ record' = record) ∨ world.Stored other record' :=
    fun other record' => putJob_stored jobId other record record'
  have pending : ∀ lockId, after.Pending lockId → world.Pending lockId ∨
      ∃ delivery, record.channelDelivery = some delivery ∧ delivery.lockId = lockId := by
    rintro lockId ⟨other, record', delivery, now, of, same⟩
    rcases (stored _ _).mp now with ⟨-, rfl⟩ | old
    · exact .inr ⟨delivery, of, same⟩
    · exact .inl ⟨other, record', delivery, old, of, same⟩
  refine ⟨{ books with jobs := ?_, counted := ?_, unanswered := ?_, failed := ?_, accepted := ?_ },
    { VoucherMoves.refl tid world with stored := fun other record' old => (stored _ _).mpr (.inr old), pending := ?_ }⟩
  · intro one record₁ delivery₁ two record₂ delivery₂ now₁ now₂ of₁ of₂ same
    rcases (stored _ _).mp now₁ with ⟨rfl, rfl⟩ | old₁
    · rcases (stored _ _).mp now₂ with ⟨rfl, rfl⟩ | old₂
      · exact ⟨rfl, rfl⟩
      · exact absurd ⟨two, record₂, delivery₂, old₂, of₂, same.symm⟩ ((own delivery₁ of₁).1.unstored unstored)
    · rcases (stored _ _).mp now₂ with ⟨rfl, rfl⟩ | old₂
      · exact absurd ⟨one, record₁, delivery₁, old₁, of₁, same⟩ ((own delivery₂ of₂).1.unstored unstored)
      · exact books.jobs _ _ _ _ _ _ old₁ old₂ of₁ of₂ same
  · intro counted member
    obtain ⟨other, named, was, known⟩ := books.counted counted member
    exact ⟨other, named, (stored _ _).mpr (.inr was), known⟩
  · intro answered member now
    rcases pending _ now with old | ⟨delivery, of, same⟩
    · exact books.unanswered answered member old
    · exact absurd same.symm ((own delivery of).1.unanswered answered member)
  · intro other record' delivery now of undone
    rcases (stored _ _).mp now with ⟨rfl, rfl⟩ | old
    · exact absurd undone ((own delivery of).1.standing unstored standing)
    · exact books.failed other record' delivery old of undone
  · intro other record' delivery now of
    rcases (stored _ _).mp now with ⟨rfl, rfl⟩ | old
    · exact (own delivery of).2
    · exact books.accepted other record' delivery old of
  · intro lockId now
    rcases pending lockId now with old | ⟨delivery, of, rfl⟩
    · exact .inl old
    · exact .inr (own delivery of).1.owner

/-- A call answers, and with what the merchant delivered only while its voucher stands. -/
theorem respond_vouchers (books : VoucherBooks world) {response : Response} (knows : CallKnows tid phase lockId world)
    (delivers : response.delivers = true → phase.undone = false ∧ phase.stored = false) :
    VoucherBooks { world with answers := ⟨lockId, response⟩ :: world.answers } ∧
      VoucherMoves tid world { world with answers := ⟨lockId, response⟩ :: world.answers } := by
  refine ⟨{ books with undone := ?_, unanswered := ?_, answered := ?_ }, { VoucherMoves.refl tid world with answers := ?_ }⟩
  · rintro other undone (⟨answered, member, same, handed⟩ | counted)
    · rcases mem_cons.mp member with rfl | old
      · cases same
        exact knows.standing (delivers handed).2 (delivers handed).1 undone
      · exact books.undone other undone (.inl ⟨answered, old, same, handed⟩)
    · exact books.undone other undone (.inr counted)
  · intro answered member pending
    rcases mem_cons.mp member with rfl | old
    · cases handed : response.delivers with
      | false => rfl
      | true => exact absurd pending (knows.unstored (delivers handed).2)
    · exact books.unanswered answered old pending
  · intro answered member
    rcases mem_cons.mp member with rfl | old
    · exact knows.minted
    · exact books.answered answered old
  · intro answered member
    rcases mem_cons.mp member with rfl | old
    · exact .inr knows.owner
    · exact .inl old

/-- A new call knows that nothing was done under its id. -/
theorem mint_vouchers (tid : ℕ) (books : VoucherBooks world) :
    VoucherBooks { world with minted := world.minted + 1 } ∧ VoucherMoves tid world { world with minted := world.minted + 1 } ∧
      ∀ phase : JobPhase, phase.previous = none →
        CallKnows tid phase ⟨tid, world.minted⟩ { world with minted := world.minted + 1 } := by
  refine ⟨{ books with minted := ?_, answered := ?_, rolledBack := ?_ },
    { VoucherMoves.refl tid world with minted := Nat.le_succ _ }, fun phase unread => ?_⟩
  · intro contract acceptance accepted
    exact (books.minted contract acceptance accepted).trans (Nat.lt_succ_self _)
  · intro answered member
    exact (books.answered answered member).trans (Nat.lt_succ_self _)
  · intro lockId undone
    exact (books.rolledBack lockId undone).trans (Nat.lt_succ_self _)
  · have unused : ∀ contract acceptance, world.Accepted contract acceptance → acceptance.lockId ≠ ⟨tid, world.minted⟩ := by
      intro contract acceptance accepted same
      have before := books.minted contract acceptance accepted
      rw [same] at before
      exact lt_irrefl _ before
    constructor
    · rfl
    · exact Nat.lt_succ_self _
    · intro answered member same
      have before := books.answered answered member
      rw [same] at before
      exact lt_irrefl _ before
    · rintro - ⟨jobId, record, delivery, stored, of, same⟩
      exact unused _ _ (books.accepted jobId record delivery stored of) same
    · intro _ _ undone
      exact lt_irrefl _ (books.rolledBack _ undone)
    · intro _
      exact unused
    · intro _ contract amount read
      rw [unread] at read
      cases read

/-- A delivery that a thread may roll back is one that it knows of. -/
theorem VoucherKnows.mayUndo (knows : VoucherKnows tid phase world) (books : VoucherBooks world)
    (undoes : phase.Undoes delivery) :
    world.Accepted delivery.channelContract delivery.acceptance ∧ MayUndo tid world delivery := by
  rcases undoes with ⟨own, vouched, unstored⟩ | ⟨claim, claimed, failed, voucher⟩
  · have call := knows.call delivery.lockId own
    exact ⟨knows.vouched delivery vouched, .inl ⟨call.owner, call.unstored unstored, call.unanswered⟩⟩
  · obtain ⟨stored, known⟩ := knows.claim claim claimed
    have held : claim.record.channelDelivery = some delivery := (filter_eq_some_iff.mp voucher).1
    exact ⟨books.accepted _ _ _ stored held, .inr ⟨claim.jobId, claim.record, stored, held, failed ▸ known⟩⟩

/-- What a thread knows of its call after a rollback, of the call's voucher or another. -/
theorem rollback_call (accepted : world.Accepted delivery.channelContract delivery.acceptance)
    (locked : delivery.rollbackCumulative (world.cumulative delivery.channelContract) ≠ none →
      world.locks delivery.channelContract = some delivery.lockId)
    (knows : CallKnows tid phase lockId world) {later : JobPhase} (stored : later.stored = phase.stored)
    (undone : later.undone = false → phase.undone = false ∧ lockId ≠ delivery.lockId)
    (presented : later.presented = phase.presented) (previous : later.previous = phase.previous) :
    CallKnows tid later lockId (world.rollback delivery).2 := by
  obtain ⟨cumulative, channelLog, same⟩ := @rollback_frame world delivery
  constructor
  · exact knows.owner
  · rw [same]
    exact knows.minted
  · rw [same]
    exact knows.unanswered
  · rw [same, stored]
    exact knows.unstored
  · intro unstored standing now
    rcases rollback_undone now with old | own
    · exact knows.standing (stored.symm.trans unstored) (undone standing).1 old
    · exact (undone standing).2 own
  · intro unused contract acceptance now
    exact knows.unused (presented.symm.trans unused) contract acceptance (rollback_accepted.mp now)
  · intro unused contract amount read held
    have unused := presented.symm.trans unused
    have held : world.locks contract = some lockId := by
      rw [same] at held
      exact held
    rw [rollback_amount fun effective here => ?_]
    · exact knows.previous unused contract amount (previous.symm.trans read) held
    · subst here
      exact knows.unused unused _ _ accepted (some.inj ((locked effective).symm.trans held))

/-- Every step that a thread may take keeps the books, and leads to what its next phase knows. -/
theorem voucher_step {action : Action} {answer : action.Answer} (books : VoucherBooks world)
    (knows : VoucherKnows tid phase world) (allowed : phase.allowed True action)
    (truly : locksTruly tid action choice world)
    (performed : perform tid action choice world = some (answer, after)) :
    VoucherBooks after ∧ VoucherMoves tid world after ∧ VoucherKnows tid (phase.next action answer) after := by
  by_cases jobless : action.jobless
  · rw [jobless_next jobless answer]
    obtain ⟨_, _, _, _, rfl⟩ := jobless_same jobless performed
    exact ⟨{ books with }, { VoucherMoves.refl tid world with },
      { knows with call := fun lockId own => { knows.call lockId own with } }⟩
  cases action with
  | getJob jobId =>
    cases performed
    refine ⟨books, .refl tid world, { knows with
      read := fun other record same => ?_, claim := by rintro _ ⟨⟩, call := fun lockId own => { knows.call lockId own with } }⟩
    obtain ⟨found, isFound, pair⟩ := map_eq_some_iff.mp same
    cases pair
    exact stale_stored (Fault.answered_some (join_eq_some_iff.mp isFound))
  | claimTerminal key outcome record =>
    obtain ⟨jobId, read, rfl⟩ := allowed
    have stored := knows.read jobId record read
    obtain ⟨kept, moves, claimed⟩ := claim_vouchers tid books outcome stored
    have call : ∀ lockId, phase.lockId = some lockId →
        CallKnows tid phase lockId (world.claimTerminal (record.terminalKey jobId) outcome record).2 :=
      fun lockId own => { knows.call lockId own with }
    rcases Fault.apply_cases (some.inj performed) with ⟨rfl, rfl⟩ | ⟨rfl, answered⟩
    · exact ⟨books, .refl _ _, knows⟩
    · refine ⟨kept, moves, ?_⟩
      cases answer with
      | none => exact knows.carry moves rfl rfl rfl call
      | some claim =>
        rw [answered claim rfl] at claimed
        simp only [JobPhase.next]
        split
        · exact knows.carry moves rfl rfl rfl call
        next agreed =>
          have carried : VoucherKnows tid phase _ := knows.carry moves rfl rfl rfl call
          refine { carried with
            claim := fun made same => ?_, call := fun lockId own => { call lockId own with } }
          rw [read] at same
          cases same
          exact ⟨moves.stored jobId record stored, claimed agreed⟩
  | createRefund cause input =>
    have unchanged : ∀ {last : World} {refunds : String → Option RefundRecord}, last = { world with refunds } →
        VoucherBooks last ∧ VoucherMoves tid world last ∧ VoucherKnows tid phase last := by
      rintro _ refunds rfl
      exact ⟨{ books with }, { VoucherMoves.refl tid world with },
        { knows with call := fun lockId own => { knows.call lockId own with } }⟩
    have kept : VoucherBooks after ∧ VoucherMoves tid world after ∧ VoucherKnows tid phase after := by
      simp only [perform] at performed
      split at performed
      · cases performed
        exact ⟨books, .refl tid _, knows⟩
      · rcases Fault.apply_cases (some.inj performed) with ⟨-, rfl⟩ | ⟨rfl, -⟩
        · exact ⟨books, .refl tid _, knows⟩
        · exact unchanged rfl
    obtain ⟨kept, moves, knows⟩ := kept
    refine ⟨kept, moves, ?_⟩
    cases cause with
    | none => exact knows
    | some key =>
      cases answer with
      | none => exact knows
      | some created => exact { knows with call := fun lockId own => { knows.call lockId own with } }
  | releaseLock cause channelContract lockId =>
    obtain ⟨kept, moves, held⟩ := releaseLock_vouchers tid books channelContract lockId
    obtain ⟨locks, released⟩ := @releaseLock_frame world channelContract lockId
    rw [released] at kept moves held
    rcases Fault.apply_cases (some.inj performed) with ⟨-, rfl⟩ | ⟨rfl, -⟩
    · exact ⟨books, .refl tid _, knows⟩
    · show VoucherBooks (world.releaseLock channelContract lockId) ∧
        VoucherMoves tid world (world.releaseLock channelContract lockId) ∧
        VoucherKnows tid phase (world.releaseLock channelContract lockId)
      rw [released]
      refine ⟨kept, moves, knows.carry moves rfl rfl rfl fun mine own => { knows.call mine own with
        previous := fun unused contract amount read holds => ?_ }⟩
      exact (knows.call mine own).previous unused contract amount read (held contract mine holds)
  | rollbackCumulative delivery =>
    obtain ⟨accepted, may⟩ := knows.mayUndo books allowed
    have undone {lockId : Uuid} (own : phase.lockId = some lockId)
        (standing : (phase.undone || decide (phase.lockId = some delivery.lockId)) = false) :
        phase.undone = false ∧ lockId ≠ delivery.lockId := by
      simpa [own] using standing
    have effect (effective : choice.fault ≠ .failed) {later : JobPhase} (read : later.read = phase.read)
        (claim : later.claim = phase.claim) (vouched : later.vouched = phase.vouched) (lockId : later.lockId = phase.lockId)
        (stored : later.stored = phase.stored) (presented : later.presented = phase.presented)
        (previous : later.previous = phase.previous)
        (undoneIs : later.undone = (phase.undone || decide (phase.lockId = some delivery.lockId))) :
        VoucherBooks (world.rollback delivery).2 ∧ VoucherMoves tid world (world.rollback delivery).2 ∧
          VoucherKnows tid later (world.rollback delivery).2 := by
      have locked := truly effective
      obtain ⟨kept, moves⟩ := rollback_vouchers books accepted may locked
      refine ⟨kept, moves, knows.carry moves read claim vouched fun mine own => ?_⟩
      have own := lockId.symm.trans own
      exact rollback_call accepted locked (knows.call mine own) stored (fun standing => undone own (undoneIs ▸ standing))
        presented previous
    cases fault : choice.fault with
    | none =>
      simp only [perform, fault, Fault.apply] at performed
      cases performed
      have effective : choice.fault ≠ .failed := by simp [fault]
      cases (world.rollback delivery).1 <;> exact effect effective rfl rfl rfl rfl rfl rfl rfl rfl
    | lost =>
      simp only [perform, fault, Fault.apply] at performed
      cases performed
      exact effect (by simp [fault]) rfl rfl rfl rfl rfl rfl rfl rfl
    | failed =>
      simp only [perform, fault, Fault.apply] at performed
      cases performed
      refine ⟨books, .refl tid _, knows.carry (.refl tid _) rfl rfl rfl fun lockId own =>
        { knows.call lockId own with standing := fun unstored standing => ?_ }⟩
      exact (knows.call lockId own).standing unstored (undone own standing).1
  | deleteChallenge challengeId =>
    rcases Fault.apply_cases (some.inj performed) with ⟨-, rfl⟩ | ⟨rfl, -⟩
    · exact ⟨books, .refl tid _, knows⟩
    · exact ⟨{ books with }, { VoucherMoves.refl tid world with },
        { knows with call := fun lockId own => { knows.call lockId own with } }⟩
  | readChallenge challengeId =>
    cases performed
    refine ⟨books, .refl tid _, ?_⟩
    rcases choice.fault.answered (world.challenges challengeId) with _ | _ | _
    · exact knows
    · exact { knows with call := fun lockId own => { knows.call lockId own with } }
    · exact knows
  | putTerminal key outcome =>
    obtain ⟨claim, claimed, rfl, rfl, -⟩ := allowed
    obtain ⟨kept, moves⟩ := putTerminal_vouchers tid books (knows.claim claim claimed).2
    rcases Fault.apply_cases (some.inj performed) with ⟨-, rfl⟩ | ⟨rfl, -⟩
    · exact ⟨books, .refl tid _, knows⟩
    · exact ⟨kept, moves, knows.carry moves rfl rfl rfl fun lockId own => { knows.call lockId own with }⟩
  | randomUuid =>
    cases performed
    obtain ⟨kept, moves, fresh⟩ := mint_vouchers tid books
    refine ⟨kept, moves, { knows with vouched := by rintro _ ⟨⟩, call := fun lockId own => ?_ }⟩
    cases own
    exact fresh _ rfl
  | acquireLock channelContract lockId =>
    obtain ⟨-, own, unused⟩ := allowed
    obtain ⟨kept, moves⟩ := acquireLock_vouchers books channelContract (knows.call lockId own) unused
    have waiting : VoucherKnows tid { phase with previous := none } world :=
      { knows with call := fun lockId own => { knows.call lockId own with previous := by rintro _ _ _ ⟨⟩ } }
    rcases Fault.apply_cases (some.inj performed) with ⟨-, rfl⟩ | ⟨rfl, -⟩
    · exact ⟨books, .refl tid _, waiting⟩
    · split
      · exact ⟨kept, moves, { knows with call := fun lockId own => { knows.call lockId own with previous := by rintro _ _ _ ⟨⟩ } }⟩
      · exact ⟨books, .refl tid _, waiting⟩
  | readCumulative channelContract =>
    cases performed
    refine ⟨books, .refl tid _, ?_⟩
    cases answered : choice.fault.answered (world.cumulative channelContract) with
    | none => exact knows
    | some current =>
      refine { knows with call := fun lockId own => { knows.call lockId own with previous := ?_ } }
      rintro - contract amount ⟨⟩ -
      rw [Fault.answered_some answered]
  | verifyVoucher channelContract lockId challengeId amount kind =>
    obtain ⟨-, own, unused, previousAmount, read⟩ := allowed
    have refused {later : JobPhase} (laterIs : later = { phase with presented := true }) :
        VoucherBooks world ∧ VoucherMoves tid world world ∧ VoucherKnows tid later world := by
      subst laterIs
      exact ⟨books, .refl tid _, knows.carry (.refl tid _) rfl rfl rfl fun mine own =>
        (knows.call mine own).presents rfl rfl rfl⟩
    simp only [perform] at performed
    split at performed
    · cases performed
      cases answered : choice.fault.answered Verified.rejected with
      | none => exact refused rfl
      | some verified =>
        cases Fault.answered_some answered
        exact refused rfl
    next captured verdict =>
      split at performed
      next acceptable =>
        by_cases effective : choice.fault = .failed
        · simp only [effective, Fault.apply] at performed
          cases performed
          exact refused rfl
        have held := truly effective (by simp [verdict])
        obtain ⟨kept, moves, accepted⟩ := acceptVoucher_vouchers books kind (knows.call lockId own) unused held acceptable
        have call {later : JobPhase} (presented : later.presented = true) (stored : later.stored = phase.stored)
            (undone : later.undone = phase.undone) (mine : Uuid) (own : phase.lockId = some mine) :
            CallKnows tid later mine (world.acceptVoucher channelContract lockId challengeId amount kind) := by
          have known := (knows.call mine own).presents presented stored undone
          exact { known with
            standing := fun unstored standing now => known.standing unstored standing (accept_undone now)
            unused := fun unused => absurd (presented.symm.trans unused) (by simp)
            previous := fun unused => absurd (presented.symm.trans unused) (by simp) }
        rcases Fault.apply_cases (some.inj performed) with ⟨rfl, rfl⟩ | ⟨rfl, answered⟩
        · exact refused rfl
        · refine ⟨kept, moves, ?_⟩
          cases answer with
          | none => exact knows.carry moves rfl rfl rfl (call rfl rfl rfl)
          | some verified =>
            cases answered verified rfl
            have carried : VoucherKnows tid { phase with presented := true }
                (world.acceptVoucher channelContract lockId challengeId amount kind) :=
              knows.carry moves rfl rfl rfl (call rfl rfl rfl)
            refine { carried with vouched := fun delivery vouched => ?_, call := call rfl rfl rfl }
            have vouched : some (⟨channelContract, lockId, challengeId, amount, previousAmount, kind⟩ : ChannelDelivery) =
                some delivery := by
              rw [← vouched]
              simp [JobPhase.next, read]
            cases vouched
            rw [(knows.call lockId own).previous unused channelContract previousAmount read held] at accepted
            exact accepted
      · cases performed
  | putJob jobId record =>
    obtain ⟨-, unstored, standing, -, own⟩ := allowed
    have mine : ∀ delivery, record.channelDelivery = some delivery → CallKnows tid phase delivery.lockId world ∧
        world.Accepted delivery.channelContract delivery.acceptance :=
      fun delivery of => ⟨knows.call delivery.lockId (own delivery of).1, knows.vouched delivery (own delivery of).2⟩
    cases fault : choice.fault with
    | none =>
      simp only [perform, fault] at performed
      cases performed
      obtain ⟨kept, moves⟩ := putJob_vouchers books jobId ((jobId, record) :: world.acceptedJobs) mine unstored standing
      refine ⟨kept, moves, knows.carry moves rfl rfl rfl fun lockId own => { knows.call lockId own with
        unstored := by rintro ⟨⟩, standing := by rintro ⟨⟩ }⟩
    | lost => exact absurd fault truly
    | failed =>
      simp only [perform, fault, Fault.apply] at performed
      cases performed
      exact ⟨books, .refl tid _, knows⟩
  | respond lockId response =>
    obtain ⟨own, delivers⟩ := allowed
    cases performed
    obtain ⟨kept, moves⟩ := respond_vouchers books (knows.call lockId own) delivers
    exact ⟨kept, moves, { knows with call := by rintro _ ⟨⟩ }⟩
  | expireJob jobId =>
    cases performed
    obtain ⟨kept, moves⟩ := expire_vouchers tid books jobId
    exact ⟨kept, moves, knows.carry moves rfl rfl rfl fun lockId own => { knows.call lockId own with
      unstored := fun unstored now => (knows.call lockId own).unstored unstored (expire_pending now) }⟩
  | _ => exact absurd trivial jobless

end Steps

theorem voucher_keeps (tid : ℕ) : (jobFlow True).Keeps voucherProtocol locksTruly tid (VoucherKnows tid) where
  stable := VoucherKnows.stable
  step _ _ allowed _ books knows _ _ _ admitted performed := voucher_step books knows allowed admitted performed

/-! ## Runs -/

theorem start_vouchers : VoucherBooks World.start where
  lawful _ := .nil
  amount _ := rfl
  undone _ undone := by
    obtain ⟨_, _, _, _, member⟩ := undone
    exact absurd member not_mem_nil
  jobs _ _ _ _ _ _ stored := absurd stored not_mem_nil
  counted _ member := absurd member not_mem_nil
  unanswered _ member := absurd member not_mem_nil
  failed _ _ _ stored := absurd stored not_mem_nil
  accepted _ _ _ stored := absurd stored not_mem_nil
  holder _ _ owns := absurd owns (some_ne_none _).symm
  minted _ _ accepted := absurd accepted not_mem_nil
  answered _ member := absurd member not_mem_nil
  rolledBack _ undone := by
    obtain ⟨_, _, _, _, member⟩ := undone
    exact absurd member not_mem_nil

theorem VoucherBooks.spares {world : World} (books : VoucherBooks world) : world.SparesOthers := by
  intro channelContract newer lockId challengeId before after older log acceptance accepted other delivered
  left
  have lawful := (log ▸ books.lawful channelContract).suffix
  refine lawful.spares accepted other fun challenge higher lower undone => ?_
  refine books.undone acceptance.lockId ⟨channelContract, challenge, higher, lower, ?_⟩ delivered
  rw [log]
  exact mem_append_right _ (mem_cons_of_mem _ undone)

theorem rollback_spares_others {pick : Pick} {parties : ℕ → Party} {after : proxyMachine.Config}
    (run : Run locksTruly (working pick World.start parties) after) : after.world.SparesOthers := by
  have books : VoucherBooks after.world :=
    @Typestate.sound proxyMachine (jobFlow True) locksTruly VoucherKnows voucherProtocol voucher_keeps
      (working pick World.start parties) after anyhow ({} : JobPhase) start_vouchers
      (fun _ => ⟨nofun, nofun, nofun, nofun⟩)
      (fun tid => program_follows (parties tid) pick (.inl trivial)) run
  exact books.spares

/-! ## The same amount again -/

/-- A video paid from a channel, at the same price each time. -/
def channelVideo (challengeId : String) : ChannelCall :=
  let account := "G" ++ String.join (replicate 55 "A")
  { route := { id := "video", upstreamHost := "video.example", upstreamAuth := true }
    auth := ⟨some ⟨some "stellar", some "channel", some ("did:pkh:stellar:pubnet:" ++ account)⟩, false⟩
    quote := priced "10000", merchantHost := "video.example", idempotencyKey := none
    credential :=
      { channelContract := "channel", challengeId, amount := 5, action := .voucher
        proof :=
          { paymentId := "close", paymentTx := "close", payer := account, recipient := "router", asset := "USDC"
            amountAtomic := "5", mode := .channel } } }

/-- Two calls on one channel, and two passes of the cron. -/
def callsAndCrons : ℕ → Party
  | 0 => .channel (channelVideo "x")
  | 1 | 3 => .cron 1
  | 2 => .channel (channelVideo "y")
  | _ => .idle

def verifiedTrue : Choice := { verified := .accepted true }

def queued : MerchantBody := { text := "queued", fields := some { jobId := some ⟨"1", true⟩ } }

def deliversNow : Choice := { merchant := some { status := 200, body := some { text := "video" } } }

/-- The first call's work becomes a job. -/
def jobAccepted : List (ℕ × Choice) :=
  [(0, {}), (0, {}), (0, {}), (0, verifiedTrue), (0, { merchant := some { status := 202, body := some queued } }),
    (0, {}), (0, {}), (0, {})]

/-- A pass of the cron fails the job and rolls its voucher back. -/
def jobTimesOut (tid : ℕ) : List (ℕ × Choice) :=
  [(tid, { page := { keys := ["1"] } }), (tid, {}), (tid, {}), (tid, { now := jobTimeoutMs }), (tid, {}), (tid, {})]

/-- The second call takes the lock and is delivered. -/
def secondDelivered : List (ℕ × Choice) :=
  [(2, {}), (2, { flag := true }), (2, {}), (2, verifiedTrue), (2, deliversNow), (2, {}), (2, {})]

def firstUndone : ChannelEvent := .rolledBack ⟨0, 0⟩ "x" 5 0

/-- What the channel has seen until the second call is delivered. -/
def untilSecond : List ChannelEvent :=
  [.accepted ⟨⟨2, 1⟩, "y", 5, 0⟩, firstUndone, .accepted ⟨⟨0, 0⟩, "x", 5, 0⟩]

def World.answeredVideo (world : World) (lockId : Uuid) : Bool :=
  world.answers.any fun answered => answered.lockId = lockId && answered.response.delivers

/-- The first pass crashes after its rollback and the lock is taken over; the next one repeats the rollback. -/
theorem rollback_hits_another : ∃ after,
    Run (unrestricted proxyMachine) (working head? World.start callsAndCrons) after ∧
      ¬ after.world.SparesOthers := by
  obtain ⟨after, run, passed⟩ := Config.exec_reaches (unrestricted proxyMachine)
    (working head? World.start callsAndCrons)
    (jobAccepted ++ jobTimesOut 1 ++ secondDelivered ++ jobTimesOut 3)
    (fun world => world.channelLog "channel" = firstUndone :: untilSecond && world.answeredVideo ⟨2, 1⟩) (by decide +kernel)
  simp only [Bool.and_eq_true, decide_eq_true_eq] at passed
  refine ⟨after, run, fun spares => ?_⟩
  obtain ⟨answered, member, handed⟩ := any_eq_true.mp passed.2
  simp only [Bool.and_eq_true, decide_eq_true_eq] at handed
  have bound := spares "channel" [] ⟨0, 0⟩ "x" 5 0 untilSecond passed.1 ⟨⟨2, 1⟩, "y", 5, 0⟩ mem_cons_self
    (by decide) (.inl ⟨answered, member, handed.1, handed.2⟩)
  revert bound
  decide

instance (tid : ℕ) (action : Action) (choice : Choice) (world : World) :
    Decidable (locksTruly tid action choice world) := by
  apply @Action.casesOn (fun action => Decidable (locksTruly tid action choice world)) action <;> intros <;>
    dsimp only [locksTruly] <;> infer_instance

/-- The first pass completes: the voucher is rolled back, the challenge dropped and the lock released. -/
def passCompletes : List (ℕ × Choice) := jobTimesOut 1 ++ replicate 4 (1, ({} : Choice))

theorem rollback_spares_second : ∃ after,
    Run locksTruly (working head? World.start callsAndCrons) after ∧
      after.world.channelLog "channel" = untilSecond ∧ after.world.answeredVideo ⟨2, 1⟩ = true ∧ after.world.SparesOthers := by
  obtain ⟨after, run, passed⟩ := Config.exec_reaches locksTruly
    (working head? World.start callsAndCrons) (jobAccepted ++ passCompletes ++ secondDelivered)
    (fun world => world.channelLog "channel" = untilSecond && world.answeredVideo ⟨2, 1⟩) (by decide +kernel)
  simp only [Bool.and_eq_true, decide_eq_true_eq] at passed
  exact ⟨after, run, passed.1, passed.2, rollback_spares_others run⟩

end MppRouter.Proxy
