import Mathlib.Data.List.ReduceOption
import MppRouter.Proxy.JobFlow

/-! # Asynchronous jobs have one outcome

Polls and cron passes finish jobs at any time and in any number. The books of the jobs say what holds of them
throughout: an outcome is claimed once and for the one job of its key, and it is done only when a failed job
was given back what it cost.
-/

namespace MppRouter.Proxy

open Concurrent Machine Mpp Refund Routes Throwing Typestate Function List Option

/-! ## The books -/

namespace World

variable (world : World)

/-- The store has held this record under this id. -/
def Stored (jobId : String) (record : JobAuthRecord) : Prop := some record ∈ world.jobs jobId

def outcome (key : TerminalKey) : Option Outcome := (world.terminals key).map AsyncTerminal.outcome

def refunded (proof : PaymentProof) : Bool := (world.refunds (refundIdForPaymentTx proof.paymentTx)).isSome

/-- A voucher accepted under this challenge was rolled back. -/
def RolledBack (challengeId : String) : Prop :=
  ∃ channelContract lockId before after,
    .rolledBack lockId challengeId before after ∈ world.channelLog channelContract

/-- What a failed job cost was given back. -/
def Compensated (record : JobAuthRecord) : Prop :=
  match record.voucher with
  | some delivery => world.RolledBack delivery.challengeId
  | none => ∀ proof, record.paymentProof = some proof → world.refunded proof = true

/-- The outcome of the record's own job was claimed. -/
def Decided (jobId : String) (record : JobAuthRecord) : Prop :=
  world.claimedFor (record.terminalKey jobId) = some record

end World

/-- The rollback of a delivery's voucher. -/
def ChannelDelivery.rollback (delivery : ChannelDelivery) : ChannelEvent :=
  .rolledBack delivery.lockId delivery.challengeId delivery.acceptedAmount delivery.previousAmount

/-- What holds where only polls, cron passes and the store's housekeeping are at work. -/
structure LookedAfter (start world : World) : Prop where
  stored : ∀ jobId record, world.Stored jobId record → start.Stored jobId record
  refunded : ∀ refundId, (world.refunds refundId).isSome = true → (start.refunds refundId).isSome = true ∨
    ∃ jobId record proof, start.Stored jobId record ∧ record.paymentProof = some proof ∧
      refundId = refundIdForPaymentTx proof.paymentTx ∧ world.outcome (record.terminalKey jobId) = some .failed
  rolledBack : ∀ channelContract event, event ∈ world.channelLog channelContract →
    event ∈ start.channelLog channelContract ∨ ∃ jobId record delivery, start.Stored jobId record ∧
      record.voucher = some delivery ∧ delivery.channelContract = channelContract ∧ event = delivery.rollback ∧
      world.outcome (record.terminalKey jobId) = some .failed
  locked : ∀ channelContract lockId, start.locks channelContract = some lockId →
    world.locks channelContract = some lockId ∨ ∃ jobId record delivery, start.Stored jobId record ∧
      record.channelDelivery = some delivery ∧ delivery.channelContract = channelContract ∧
      delivery.lockId = lockId ∧ (world.outcome (record.terminalKey jobId)).isSome = true

structure JobBooks (handlers : Prop) (start world : World) : Prop where
  one : ∀ jobId record other, world.Stored jobId record → world.Stored jobId other →
    record.serviceId = other.serviceId → record = other
  decided : ∀ key, (world.terminals key).isSome = (world.claimedFor key).isSome
  named : ∀ key record, world.claimedFor key = some record →
    world.Stored key.jobId record ∧ record.serviceId = key.serviceId
  counted : ∀ counted ∈ world.counted, counted.claimedFor = counted.record ∧
    world.outcome counted.key = some counted.outcome
  compensated : ∀ key record, world.claimedFor key = some record → world.terminals key = some ⟨.failed, .done⟩ →
    world.Compensated record
  vouched : ∀ jobId record delivery, world.Stored jobId record → record.voucher = some delivery →
    world.challenges delivery.challengeId = true ∨ world.RolledBack delivery.challengeId
  held : handlers → ∀ jobId record, (jobId, record) ∈ world.acceptedJobs →
    world.Stored jobId record ∧ (record.paymentProof.isSome = true ∨ record.voucher.isSome = true) ∧
      (world.Decided jobId record ∨ (world.jobs jobId).head? = some (some record))
  lookedAfter : ¬ handlers → LookedAfter start world

/-- What every thread leaves as it is. -/
structure JobMoves (before after : World) : Prop where
  outcome : ∀ key outcome, before.outcome key = some outcome → after.outcome key = some outcome
  claimedFor : ∀ key record, before.claimedFor key = some record → after.claimedFor key = some record
  stored : ∀ jobId record, before.Stored jobId record → after.Stored jobId record
  refunds : ∀ refundId, (before.refunds refundId).isSome = true → (after.refunds refundId).isSome = true
  rolledBack : ∀ challengeId, before.RolledBack challengeId → after.RolledBack challengeId
  challenges : ∀ challengeId, before.challenges challengeId = true →
    after.challenges challengeId = true ∨ after.RolledBack challengeId

theorem JobMoves.compensated {before after : World} (moves : JobMoves before after) {record : JobAuthRecord}
    (compensated : before.Compensated record) : after.Compensated record := by
  unfold World.Compensated at compensated ⊢
  split at compensated
  · exact moves.rolledBack _ compensated
  · exact fun proof paid => moves.refunds _ (compensated proof paid)

theorem JobMoves.vouched {before after : World} (moves : JobMoves before after) {challengeId : String}
    (vouched : before.challenges challengeId = true ∨ before.RolledBack challengeId) :
    after.challenges challengeId = true ∨ after.RolledBack challengeId := by
  rcases vouched with standing | rolledBack
  · exact moves.challenges challengeId standing
  · exact .inr (moves.rolledBack challengeId rolledBack)

theorem JobMoves.trans {first second third : World} (one : JobMoves first second) (two : JobMoves second third) :
    JobMoves first third where
  outcome key outcome known := two.outcome key outcome (one.outcome key outcome known)
  claimedFor key record claimed := two.claimedFor key record (one.claimedFor key record claimed)
  stored jobId record stored := two.stored jobId record (one.stored jobId record stored)
  refunds refundId found := two.refunds refundId (one.refunds refundId found)
  rolledBack challengeId rolledBack := two.rolledBack challengeId (one.rolledBack challengeId rolledBack)
  challenges challengeId standing := two.vouched (one.challenges challengeId standing)

/-- What a thread knows in each phase. -/
structure JobKnows (handlers : Prop) (phase : JobPhase) (world : World) : Prop where
  atWork : phase.lockId.isSome = true → handlers
  read : ∀ jobId record, phase.read = some (jobId, record) → world.Stored jobId record
  claim : ∀ claim, phase.claim = some claim →
    world.claimedFor claim.key = some claim.record ∧ world.outcome claim.key = some claim.outcome
  compensated : ∀ claim, phase.claim = some claim → phase.compensated = true → world.Compensated claim.record
  rolled : ∀ delivery, phase.rolled = some delivery → world.RolledBack delivery.challengeId
  vouched : ∀ delivery, phase.vouched = some delivery →
    world.challenges delivery.challengeId = true ∨ world.RolledBack delivery.challengeId

theorem JobKnows.moves {handlers : Prop} {phase : JobPhase} {before after : World}
    (knows : JobKnows handlers phase before) (moves : JobMoves before after) : JobKnows handlers phase after where
  atWork := knows.atWork
  read jobId record same := moves.stored jobId record (knows.read jobId record same)
  claim claim same :=
    ⟨moves.claimedFor _ _ (knows.claim claim same).1, moves.outcome _ _ (knows.claim claim same).2⟩
  compensated claim same given := moves.compensated (knows.compensated claim same given)
  rolled delivery same := moves.rolledBack _ (knows.rolled delivery same)
  vouched delivery same := moves.vouched (knows.vouched delivery same)

def jobProtocol (handlers : Prop) (start : World) : Protocol proxyMachine :=
  ⟨JobBooks handlers start, fun _ => JobMoves⟩

/-- A merchant's job id is new on its route, and what is stored or dropped under a job id leaves nobody's
undecided job behind. -/
def jobsTruly : proxyMachine.Admits := fun _ action choice world =>
  match action with
  | .putJob jobId record => choice.fault ≠ .failed →
      (∀ other ∈ (world.jobs jobId).reduceOption, other.serviceId ≠ record.serviceId) ∧
        ∀ job ∈ world.acceptedJobs, job.1 = jobId → world.claimedFor ⟨job.2.serviceId, jobId⟩ = some job.2
  | .expireJob jobId =>
      ∀ job ∈ world.acceptedJobs, job.1 = jobId → world.claimedFor ⟨job.2.serviceId, jobId⟩ = some job.2
  | _ => True

/-! ## The steps -/

section Steps

variable {handlers : Prop} {start world after : World} {tid : ℕ} {phase : JobPhase} {choice : Choice}

theorem JobMoves.refl (world : World) : JobMoves world world :=
  ⟨fun _ _ => id, fun _ _ => id, fun _ _ => id, fun _ => id, fun _ => id, fun _ => .inl⟩

theorem jobless_same {action : Action} {answer : action.Answer} (jobless : action.jobless)
    (performed : perform tid action choice world = some (answer, after)) :
    ∃ nonces admitted credentials settled, after = { world with nonces, admitted, credentials, settled } := by
  cases action with
  | getJob | claimTerminal | createRefund | releaseLock | rollbackCumulative | deleteChallenge | readChallenge
  | putTerminal | randomUuid | acquireLock | readCumulative | verifyVoucher | putJob | respond | expireJob => cases jobless
  | _ =>
    cases fault : choice.fault <;> simp only [perform, fault, Fault.apply] at performed <;> cases performed <;>
      first | exact ⟨_, _, _, _, rfl⟩ | (split <;> exact ⟨_, _, _, _, rfl⟩)

theorem expire_stored (jobId other : String) (record : JobAuthRecord) :
    World.Stored { world with jobs := update world.jobs jobId (none :: world.jobs jobId) } other record ↔
      world.Stored other record := by
  by_cases same : other = jobId
  · subst same
    simp [World.Stored]
  · simp [World.Stored, same]

theorem putJob_stored (jobId other : String) (record record' : JobAuthRecord) :
    (world.putJob jobId record).Stored other record' ↔ (other = jobId ∧ record' = record) ∨ world.Stored other record' := by
  by_cases same : other = jobId
  · subst same
    simp [World.Stored, World.putJob]
  · simp [World.Stored, World.putJob, same]

variable {jobId : String}

theorem expire_books (books : JobBooks handlers start world) (decided : handlers →
      ∀ job ∈ world.acceptedJobs, job.1 = jobId → world.claimedFor ⟨job.2.serviceId, jobId⟩ = some job.2) :
    JobBooks handlers start { world with jobs := update world.jobs jobId (none :: world.jobs jobId) } ∧
      JobMoves world { world with jobs := update world.jobs jobId (none :: world.jobs jobId) } := by
  set after : World := { world with jobs := update world.jobs jobId (none :: world.jobs jobId) } with afterIs
  have stored : ∀ other record, after.Stored other record ↔ world.Stored other record := expire_stored jobId
  refine ⟨{ books with one := ?_, named := ?_, vouched := ?_, held := ?_, lookedAfter := ?_ },
    { JobMoves.refl world with stored := fun other record => (stored other record).mpr }⟩
  · intro other record record' one two
    exact books.one other record record' ((stored _ _).mp one) ((stored _ _).mp two)
  · intro key record claimed
    exact ⟨(stored _ _).mpr (books.named key record claimed).1, (books.named key record claimed).2⟩
  · intro other record delivery held
    exact books.vouched other record delivery ((stored _ _).mp held)
  · intro calls other record accepted
    obtain ⟨held, backed, known⟩ := books.held calls other record accepted
    refine ⟨(stored _ _).mpr held, backed, ?_⟩
    by_cases same : other = jobId
    · subst same
      exact .inl (decided calls _ accepted rfl)
    · rw [show after.jobs other = world.jobs other from update_of_ne same ..]
      exact known
  · intro calls
    exact { books.lookedAfter calls with
      stored := fun other record held => (books.lookedAfter calls).stored other record ((stored _ _).mp held) }

variable {decision : Decision RefundRecord RefundRecord}

theorem createRefund_some {refundId publicId : String} {now : ℕ} {input : EnqueueInput} {current : Option RefundRecord}
    (decided : Refund.enqueueRefund refundId publicId now input current = .ok decision) :
    (decision.after current).isSome = true := by
  unfold Refund.enqueueRefund at decided
  split at decided
  · cases decided
  · split at decided <;> cases decided <;> rfl

theorem refund_books (books : JobBooks handlers start world) {refundId : String}
    (made : (decision.after (world.refunds refundId)).isSome = true)
    (caused : ¬ handlers → ∃ jobId record proof, world.Stored jobId record ∧ record.paymentProof = some proof ∧
      refundId = refundIdForPaymentTx proof.paymentTx ∧ world.outcome (record.terminalKey jobId) = some .failed) :
    JobBooks handlers start (world.createRefund refundId decision).2 ∧
      JobMoves world (world.createRefund refundId decision).2 := by
  set after := (world.createRefund refundId decision).2 with afterIs
  have moves : JobMoves world after := by
    refine { JobMoves.refl world with refunds := fun other found => ?_ }
    by_cases same : other = refundId
    · subst same
      simpa [afterIs, World.createRefund] using made
    · simpa [afterIs, World.createRefund, same] using found
  refine ⟨{ books with compensated := ?_, lookedAfter := ?_ }, moves⟩
  · intro key record claimed done
    exact moves.compensated (books.compensated key record claimed done)
  · intro calls
    refine { books.lookedAfter calls with refunded := fun other found => ?_ }
    by_cases same : other = refundId
    · subst same
      obtain ⟨jobId, record, proof, held, paid, named, failed⟩ := caused calls
      exact .inr ⟨jobId, record, proof, (books.lookedAfter calls).stored jobId record held, paid, named, failed⟩
    · apply (books.lookedAfter calls).refunded other
      simpa [afterIs, World.createRefund, same] using found

theorem rolledBack_append {channelContract : String} {event : ChannelEvent} {cumulative : String → Option (Cumulative ℕ)}
    {challenges : String → Bool} {challengeId : String} (rolledBack : world.RolledBack challengeId) :
    World.RolledBack { world with
      cumulative, challenges
      channelLog := update world.channelLog channelContract (event :: world.channelLog channelContract) }
      challengeId := by
  obtain ⟨contract, lockId, before, after, member⟩ := rolledBack
  refine ⟨contract, lockId, before, after, ?_⟩
  by_cases same : contract = channelContract
  · subst same
    simpa using .inr member
  · simpa [same] using member

theorem rollback_books (books : JobBooks handlers start world) {delivery : ChannelDelivery}
    (caused : ¬ handlers → ∃ jobId record, world.Stored jobId record ∧ record.voucher = some delivery ∧
      world.outcome (record.terminalKey jobId) = some .failed) :
    JobBooks handlers start (world.rollback delivery).2 ∧ JobMoves world (world.rollback delivery).2 ∧
      ((world.rollback delivery).1 = true → (world.rollback delivery).2.RolledBack delivery.challengeId) := by
  unfold World.rollback
  split
  · exact ⟨books, .refl world, nofun⟩
  next restored _ =>
    have moves : JobMoves world { world with
        cumulative := update world.cumulative delivery.channelContract restored
        channelLog := update world.channelLog delivery.channelContract
          (delivery.rollback :: world.channelLog delivery.channelContract) } :=
      { JobMoves.refl world with
        rolledBack := fun _ => rolledBack_append
        challenges := fun _ standing => .inl standing }
    refine ⟨{ books with compensated := ?_, vouched := ?_, lookedAfter := ?_ }, moves, fun _ => ?_⟩
    · intro key record claimed done
      exact moves.compensated (books.compensated key record claimed done)
    · intro jobId record voucher held same
      exact moves.vouched (books.vouched jobId record voucher held same)
    · intro calls
      refine { books.lookedAfter calls with rolledBack := fun contract event member => ?_ }
      by_cases same : contract = delivery.channelContract
      · subst same
        simp only [update_self, mem_cons] at member
        rcases member with rfl | member
        · obtain ⟨jobId, record, held, voucher, failed⟩ := caused calls
          exact .inr ⟨jobId, record, delivery, (books.lookedAfter calls).stored jobId record held, voucher, rfl, rfl, failed⟩
        · exact (books.lookedAfter calls).rolledBack _ event member
      · simp only [update_of_ne same] at member
        exact (books.lookedAfter calls).rolledBack contract event member
    · exact ⟨delivery.channelContract, delivery.lockId, delivery.acceptedAmount, delivery.previousAmount, by simp⟩

theorem deleteChallenge_books (books : JobBooks handlers start world) {challengeId : String}
    (rolledBack : world.RolledBack challengeId) :
    JobBooks handlers start { world with challenges := update world.challenges challengeId false } ∧
      JobMoves world { world with challenges := update world.challenges challengeId false } := by
  have moves : JobMoves world { world with challenges := update world.challenges challengeId false } := by
    refine { JobMoves.refl world with challenges := fun other standing => ?_ }
    by_cases same : other = challengeId
    · subst same
      exact .inr rolledBack
    · left
      simpa [same] using standing
  refine ⟨{ books with vouched := ?_, lookedAfter := fun calls => { books.lookedAfter calls with } }, moves⟩
  intro jobId record delivery held voucher
  exact moves.vouched (books.vouched jobId record delivery held voucher)

theorem acceptVoucher_books (books : JobBooks handlers start world) (calls : handlers) (channelContract : String)
    (lockId : Uuid) (challengeId : String) (amount : ℕ) (action : ChannelAction) :
    JobBooks handlers start (world.acceptVoucher channelContract lockId challengeId amount action) ∧
      JobMoves world (world.acceptVoucher channelContract lockId challengeId amount action) := by
  have moves : JobMoves world (world.acceptVoucher channelContract lockId challengeId amount action) := by
    refine { JobMoves.refl world with
      rolledBack := fun _ => rolledBack_append
      challenges := fun other standing => .inl ?_ }
    by_cases same : other = challengeId
    · subst same
      simp [World.acceptVoucher]
    · simpa [World.acceptVoucher, same] using standing
  refine ⟨{ books with compensated := ?_, vouched := ?_, lookedAfter := fun none_ => absurd calls none_ }, moves⟩
  · intro key record claimed done
    exact moves.compensated (books.compensated key record claimed done)
  · intro jobId record delivery held voucher
    exact moves.vouched (books.vouched jobId record delivery held voucher)

variable {record : JobAuthRecord}

/-- A record under a fresh id of its route joins the store, for good or to its handler's knowledge. -/
theorem putJob_books (books : JobBooks handlers start world) (calls : handlers)
    (backed : record.paymentProof.isSome = true ∨ record.voucher.isSome = true)
    (vouched : ∀ delivery, record.channelDelivery = some delivery →
      world.challenges delivery.challengeId = true ∨ world.RolledBack delivery.challengeId)
    (fresh : ∀ other ∈ (world.jobs jobId).reduceOption, other.serviceId ≠ record.serviceId)
    (decided : ∀ job ∈ world.acceptedJobs, job.1 = jobId → world.claimedFor ⟨job.2.serviceId, jobId⟩ = some job.2)
    {acceptedJobs : List (String × JobAuthRecord)}
    (accepted : acceptedJobs = world.acceptedJobs ∨ acceptedJobs = (jobId, record) :: world.acceptedJobs) :
    JobBooks handlers start { world.putJob jobId record with acceptedJobs } ∧
      JobMoves world { world.putJob jobId record with acceptedJobs } := by
  set after : World := { world.putJob jobId record with acceptedJobs } with afterIs
  have stored : ∀ other record', after.Stored other record' ↔ (other = jobId ∧ record' = record) ∨ world.Stored other record' :=
    fun other record' => putJob_stored jobId other record record'
  have head : ∀ other record', (other, record') ∈ world.acceptedJobs →
      world.Decided other record' ∨ (world.jobs other).head? = some (some record') →
      world.Decided other record' ∨ (after.jobs other).head? = some (some record') := by
    intro other record' member known
    by_cases same : other = jobId
    · subst same
      exact .inl (decided _ member rfl)
    · rw [show after.jobs other = world.jobs other from update_of_ne same ..]
      exact known
  refine ⟨{ books with one := ?_, named := ?_, vouched := ?_, held := ?_, lookedAfter := fun none_ => absurd calls none_ },
    { JobMoves.refl world with stored := fun other record' held => (stored _ _).mpr (.inr held) }⟩
  · intro other one two held held' route
    rcases (stored _ _).mp held with ⟨rfl, rfl⟩ | old
    · rcases (stored _ _).mp held' with ⟨-, rfl⟩ | old'
      · rfl
      · exact absurd route.symm (fresh two (reduceOption_mem_iff.mpr old'))
    · rcases (stored _ _).mp held' with ⟨rfl, rfl⟩ | old'
      · exact absurd route (fresh one (reduceOption_mem_iff.mpr old))
      · exact books.one other one two old old' route
  · intro key record' claimed
    exact ⟨(stored _ _).mpr (.inr (books.named key record' claimed).1), (books.named key record' claimed).2⟩
  · intro other record' delivery held voucher
    rcases (stored _ _).mp held with ⟨rfl, rfl⟩ | held
    · exact vouched delivery (filter_eq_some_iff.mp voucher).1
    · exact books.vouched other record' delivery held voucher
  · intro _ other record' member
    have earlier (old : (other, record') ∈ world.acceptedJobs) := books.held calls other record' old
    have old_or_new : (other, record') ∈ world.acceptedJobs ∨ (other, record') = (jobId, record) := by
      rcases accepted with same | same
      · exact .inl (same ▸ member)
      · rw [show after.acceptedJobs = (jobId, record) :: world.acceptedJobs from same] at member
        rcases mem_cons.mp member with new | old
        · exact .inr new
        · exact .inl old
    rcases old_or_new with old | new
    · obtain ⟨held, backed, known⟩ := earlier old
      exact ⟨(stored _ _).mpr (.inr held), backed, head other record' old known⟩
    · cases new
      refine ⟨(stored _ _).mpr (.inl ⟨rfl, rfl⟩), backed, .inr ?_⟩
      simp [afterIs, World.putJob]

/-- A claim finds the outcome of its key or makes it. -/
theorem claimTerminal_spec (key : TerminalKey) (outcome : Outcome) (record : JobAuthRecord) :
    ∃ terminal : AsyncTerminal,
      (world.claimTerminal key outcome record).2.terminals = update world.terminals key (some terminal) ∧
      (world.claimTerminal key outcome record).2.counted =
        ⟨key, record, terminal.outcome, (world.claimedFor key).getD record⟩ :: world.counted ∧
      (∀ before, world.terminals key = some before → terminal = before) ∧
      ((world.claimTerminal key outcome record).1 ≠ .conflict → terminal.outcome = outcome) ∧
      (world.terminals key = none → terminal.state = .processing) := by
  obtain ⟨terminal, standing, found⟩ : ∃ terminal : AsyncTerminal,
      (Proxy.claimTerminal outcome (world.terminals key)).after (world.terminals key) = some terminal ∧
        (∀ before, world.terminals key = some before → terminal = before) ∧
        ((Proxy.claimTerminal outcome (world.terminals key)).result ≠ .conflict → terminal.outcome = outcome) ∧
        (world.terminals key = none → terminal.state = .processing) := by
    cases current : world.terminals key with
    | none => exact ⟨⟨outcome, .processing⟩, rfl, nofun, fun _ => rfl, fun _ => rfl⟩
    | some value =>
      simp only [Proxy.claimTerminal]
      split
      · exact ⟨value, rfl, by simp, fun agrees => absurd rfl agrees, nofun⟩
      next same =>
        rw [not_not] at same
        split <;> exact ⟨value, rfl, by simp, fun _ => same, nofun⟩
  refine ⟨terminal, ?_, ?_, found⟩
  · rw [← standing]
    rfl
  · simp only [World.claimTerminal, standing, elim_some]

theorem claimTerminal_outcome {key : TerminalKey} {outcome : Outcome} {other : TerminalKey}
    {found : Outcome} (known : world.outcome other = some found) :
    (world.claimTerminal key outcome record).2.outcome other = some found := by
  obtain ⟨terminal, terminals, -, agrees, -⟩ := @claimTerminal_spec world key outcome record
  by_cases same : other = key
  · subst same
    obtain ⟨before, current, rfl⟩ := map_eq_some_iff.mp known
    simp [World.outcome, terminals, agrees before current]
  · simpa [World.outcome, terminals, same] using known

theorem claim_books (books : JobBooks handlers start world) (outcome : Outcome) (read : world.Stored jobId record) :
    JobBooks handlers start (world.claimTerminal (record.terminalKey jobId) outcome record).2 ∧
      JobMoves world (world.claimTerminal (record.terminalKey jobId) outcome record).2 ∧
      ((world.claimTerminal (record.terminalKey jobId) outcome record).1 ≠ .conflict →
        (world.claimTerminal (record.terminalKey jobId) outcome record).2.claimedFor (record.terminalKey jobId) = some record ∧
        (world.claimTerminal (record.terminalKey jobId) outcome record).2.outcome (record.terminalKey jobId) = some outcome) := by
  set key := record.terminalKey jobId with keyIs
  set after := (world.claimTerminal key outcome record).2 with afterIs
  have owner : (world.claimedFor key).getD record = record := by
    cases claimed : world.claimedFor key with
    | none => rfl
    | some other =>
      obtain ⟨held, route⟩ := books.named key other claimed
      exact books.one jobId other record held read route
  obtain ⟨terminal, terminals, cons, agrees, fits⟩ : ∃ terminal : AsyncTerminal,
      after.terminals = update world.terminals key (some terminal) ∧
      after.counted = ⟨key, record, terminal.outcome, (world.claimedFor key).getD record⟩ :: world.counted ∧ _ :=
    claimTerminal_spec key outcome record
  have claimedFor : after.claimedFor = update world.claimedFor key (some record) := by
    simp only [afterIs, World.claimTerminal, owner]
  have same_outcome : ∀ other found, world.outcome other = some found → after.outcome other = some found :=
    fun _ _ => claimTerminal_outcome
  have moves : JobMoves world after := by
    refine { JobMoves.refl world with outcome := same_outcome, claimedFor := fun other found known => ?_ }
    rw [claimedFor]
    by_cases same : other = key
    · subst same
      rw [known] at owner
      rw [update_self]
      exact congrArg some (show record = found from owner.symm)
    · simpa [same] using known
  refine ⟨{ books with
    decided := ?_, named := ?_, counted := ?_, compensated := ?_, held := ?_, lookedAfter := ?_ }, moves, fun agreed => ?_⟩
  · intro other
    rw [terminals, claimedFor]
    by_cases same : other = key
    · subst same
      simp
    · simpa [same] using books.decided other
  · intro other found known
    rw [claimedFor] at known
    by_cases same : other = key
    · subst same
      rw [update_self] at known
      cases known
      exact ⟨read, rfl⟩
    · rw [update_of_ne same] at known
      exact books.named other found known
  · intro counted member
    rw [cons, owner] at member
    rcases mem_cons.mp member with rfl | old
    · exact ⟨rfl, by simp [World.outcome, terminals]⟩
    · exact ⟨(books.counted counted old).1, same_outcome _ _ (books.counted counted old).2⟩
  · intro other found known done
    apply moves.compensated
    rw [claimedFor] at known
    rw [terminals] at done
    by_cases same : other = key
    · subst same
      rw [update_self] at known done
      cases known
      cases current : world.terminals key with
      | none =>
        have processing := fits.2 current
        cases done
        cases processing
      | some before =>
        have was : world.claimedFor key = some record := by
          have claimed := books.decided key
          rw [current] at claimed
          obtain ⟨found, isFound⟩ := isSome_iff_exists.mp claimed.symm
          rw [isFound] at owner
          rw [isFound]
          exact congrArg some owner
        cases agrees before current
        exact books.compensated key record was (current.trans done)
    · rw [update_of_ne same] at known done
      exact books.compensated other found known done
  · intro calls other found member
    obtain ⟨held, backed, known⟩ := books.held calls other found member
    exact ⟨held, backed, known.imp_left (moves.claimedFor _ _)⟩
  · intro calls
    have looked := books.lookedAfter calls
    refine { looked with refunded := fun refundId found => ?_, rolledBack := fun contract event member => ?_, locked := fun contract lockId held => ?_ }
    · rcases looked.refunded refundId found with before | ⟨other, record', proof, held, paid, named, failed⟩
      · exact .inl before
      · exact .inr ⟨other, record', proof, held, paid, named, moves.outcome _ _ failed⟩
    · rcases looked.rolledBack contract event member with before | ⟨other, record', delivery, held, voucher, onto, is, failed⟩
      · exact .inl before
      · exact .inr ⟨other, record', delivery, held, voucher, onto, is, moves.outcome _ _ failed⟩
    · rcases looked.locked contract lockId held with before | ⟨other, record', delivery, stored, has, onto, is, known⟩
      · exact .inl before
      · obtain ⟨outcome', same⟩ := isSome_iff_exists.mp known
        refine .inr ⟨other, record', delivery, stored, has, onto, is, ?_⟩
        rw [moves.outcome _ _ same]
        rfl
  · rw [claimedFor]
    refine ⟨update_self .., ?_⟩
    simp [World.outcome, terminals, fits.1 agreed]

/-- A failed job's outcome is done once it was given back what it cost. -/
theorem putTerminal_books (books : JobBooks handlers start world) {key : TerminalKey}
    {outcome : Outcome} (claimed : world.claimedFor key = some record) (known : world.outcome key = some outcome)
    (settled : outcome = .failed → world.Compensated record) :
    JobBooks handlers start { world with terminals := update world.terminals key (some ⟨outcome, .done⟩) } ∧
      JobMoves world { world with terminals := update world.terminals key (some ⟨outcome, .done⟩) } := by
  set after : World := { world with terminals := update world.terminals key (some ⟨outcome, .done⟩) } with afterIs
  have same_outcome : ∀ other, after.outcome other = world.outcome other := by
    intro other
    by_cases same : other = key
    · subst same
      rw [known]
      simp [World.outcome, afterIs]
    · simp [World.outcome, afterIs, same]
  have moves : JobMoves world after :=
    { JobMoves.refl world with outcome := fun other found is => (same_outcome other).trans is }
  refine ⟨{ books with decided := ?_, counted := ?_, compensated := ?_, lookedAfter := ?_ }, moves⟩
  · intro other
    by_cases same : other = key
    · subst same
      simp [afterIs, claimed]
    · simpa [afterIs, same] using books.decided other
  · intro counted member
    exact ⟨(books.counted counted member).1, (same_outcome _).trans (books.counted counted member).2⟩
  · intro other found is done
    apply moves.compensated
    by_cases same : other = key
    · subst same
      simp only [afterIs, update_self, some.injEq, AsyncTerminal.mk.injEq, and_true] at done
      cases claimed.symm.trans is
      exact settled done
    · simp only [afterIs, update_of_ne same] at done
      exact books.compensated other found is done
  · intro calls
    have looked := books.lookedAfter calls
    refine { looked with
      refunded := fun refundId found => ?_
      rolledBack := fun contract event member => ?_
      locked := fun contract lockId held => ?_ }
    · simpa only [same_outcome] using looked.refunded refundId found
    · simpa only [same_outcome] using looked.rolledBack contract event member
    · simpa only [same_outcome] using looked.locked contract lockId held

theorem releaseLock_books (books : JobBooks handlers start world) {channelContract : String} {lockId : Uuid}
    (caused : ¬ handlers → ∃ jobId record delivery, world.Stored jobId record ∧
      record.channelDelivery = some delivery ∧ delivery.channelContract = channelContract ∧ delivery.lockId = lockId ∧
      (world.outcome (record.terminalKey jobId)).isSome = true) :
    JobBooks handlers start (world.releaseLock channelContract lockId) ∧
      JobMoves world (world.releaseLock channelContract lockId) := by
  unfold World.releaseLock
  split
  next held =>
    refine ⟨{ books with lookedAfter := fun calls => ?_ }, { JobMoves.refl world with }⟩
    refine { books.lookedAfter calls with locked := fun contract owner locked => ?_ }
    rcases (books.lookedAfter calls).locked contract owner locked with standing | decided
    · by_cases same : contract = channelContract
      · subst same
        cases held.symm.trans standing
        obtain ⟨jobId, record, delivery, stored, has, onto, named, known⟩ := caused calls
        exact .inr ⟨jobId, record, delivery, (books.lookedAfter calls).stored jobId record stored, has, onto, named, known⟩
      · left
        simpa [same] using standing
    · exact .inr decided
  · exact ⟨books, .refl world⟩

theorem JobKnows.standing (knows : JobKnows handlers phase world) (books : JobBooks handlers start world) {claim : JobClaim}
    (claimed : phase.claim = some claim) :
    world.Stored claim.jobId claim.record ∧ world.outcome (claim.record.terminalKey claim.jobId) = some claim.outcome :=
  ⟨(books.named claim.key claim.record (knows.claim claim claimed).1).1, (knows.claim claim claimed).2⟩

theorem stale_stored {stale : ℕ}
    (found : ((world.jobs jobId)[stale]?).join = some record) : world.Stored jobId record :=
  mem_of_getElem? (join_eq_some_iff.mp found)

/-- Every step that a thread may take keeps the books, and leads to what its next phase knows. -/
theorem job_step {action : Action} {answer : action.Answer} (books : JobBooks handlers start world)
    (knows : JobKnows handlers phase world) (allowed : phase.allowed handlers action)
    (truly : handlers → jobsTruly tid action choice world)
    (performed : perform tid action choice world = some (answer, after)) :
    JobBooks handlers start after ∧ JobMoves world after ∧ JobKnows handlers (phase.next action answer) after := by
  by_cases jobless : action.jobless
  · rw [jobless_next jobless answer]
    obtain ⟨_, _, _, _, rfl⟩ := jobless_same jobless performed
    exact ⟨{ books with lookedAfter := fun calls => { books.lookedAfter calls with } }, { JobMoves.refl world with },
      { knows with }⟩
  cases action with
  | getJob jobId =>
    cases performed
    refine ⟨books, .refl world, { knows with read := fun other record same => ?_, claim := by rintro _ ⟨⟩, compensated := by rintro _ ⟨⟩ }⟩
    obtain ⟨found, isFound, pair⟩ := map_eq_some_iff.mp same
    cases pair
    exact stale_stored (Fault.answered_some (join_eq_some_iff.mp isFound))
  | claimTerminal key outcome record =>
    obtain ⟨jobId, read, rfl⟩ := allowed
    obtain ⟨kept, moves, claimed⟩ := claim_books books outcome (knows.read jobId record read)
    rcases Fault.apply_cases (some.inj performed) with ⟨rfl, rfl⟩ | ⟨rfl, answered⟩
    · exact ⟨books, .refl _, knows⟩
    · cases answer with
      | none => exact ⟨kept, moves, knows.moves moves⟩
      | some claim =>
        rw [answered claim rfl] at claimed
        simp only [JobPhase.next]
        split
        · exact ⟨kept, moves, knows.moves moves⟩
        next agreed =>
          refine ⟨kept, moves, { knows.moves moves with claim := ?_, compensated := by rintro _ _ ⟨⟩ }⟩
          intro made same
          rw [read] at same
          cases same
          exact claimed agreed
  | createRefund cause input =>
    simp only [perform] at performed
    split at performed
    · cases performed
      cases cause with
      | none => exact ⟨books, .refl _, knows⟩
      | some key => exact ⟨books, .refl _, knows⟩
    next decision decided =>
      have caused : ¬ handlers → ∃ jobId record proof, world.Stored jobId record ∧
          record.paymentProof = some proof ∧
          refundIdForPaymentTx input.proof.paymentTx = refundIdForPaymentTx proof.paymentTx ∧
          world.outcome (record.terminalKey jobId) = some .failed := by
        intro calls
        cases cause with
        | none => exact absurd allowed calls
        | some key =>
          obtain ⟨claim, claimed, -, failed, paid⟩ := allowed
          obtain ⟨stored, known⟩ := knows.standing books claimed
          exact ⟨claim.jobId, claim.record, input.proof, stored, paid, rfl, failed ▸ known⟩
      have made := createRefund_some decided
      obtain ⟨kept, moves⟩ := refund_books books made caused
      rcases Fault.apply_cases (some.inj performed) with ⟨rfl, rfl⟩ | ⟨rfl, answered⟩
      · cases cause <;> exact ⟨books, .refl _, knows⟩
      · refine ⟨kept, moves, ?_⟩
        cases cause with
        | none => exact knows.moves moves
        | some key =>
          cases answer with
          | none => exact knows.moves moves
          | some created =>
            obtain ⟨claim, claimed, -, -, paid⟩ := allowed
            refine { knows.moves moves with compensated := fun other same given => ?_ }
            cases claimed.symm.trans same
            simp only [JobPhase.next, Bool.or_eq_true, claimed, any_some] at given
            rcases given with given | free
            · exact moves.compensated (knows.compensated claim claimed given)
            · have unvoiced : claim.record.voucher = none := isNone_iff_eq_none.mp free
              simp only [World.Compensated, unvoiced, paid]
              rintro proof ⟨⟩
              simpa [World.refunded, World.createRefund] using made
  | releaseLock cause channelContract lockId =>
    have caused : ¬ handlers → ∃ jobId record delivery, world.Stored jobId record ∧
        record.channelDelivery = some delivery ∧ delivery.channelContract = channelContract ∧
        delivery.lockId = lockId ∧ (world.outcome (record.terminalKey jobId)).isSome = true := by
      intro calls
      cases cause with
      | none => exact absurd allowed calls
      | some key =>
        obtain ⟨claim, delivery, claimed, -, held, onto, named⟩ := allowed
        obtain ⟨stored, known⟩ := knows.standing books claimed
        exact ⟨claim.jobId, claim.record, delivery, stored, held, onto, named, by rw [known]; rfl⟩
    obtain ⟨kept, moves⟩ := releaseLock_books books caused
    rcases Fault.apply_cases (some.inj performed) with ⟨-, rfl⟩ | ⟨rfl, -⟩
    · exact ⟨books, .refl _, knows⟩
    · exact ⟨kept, moves, knows.moves moves⟩
  | rollbackCumulative delivery =>
    have caused : ¬ handlers → ∃ jobId record, world.Stored jobId record ∧ record.voucher = some delivery ∧
        world.outcome (record.terminalKey jobId) = some .failed := by
      intro calls
      rcases allowed with ⟨own, -⟩ | ⟨claim, claimed, failed, voucher⟩
      · exact absurd (knows.atWork (by rw [own]; rfl)) calls
      · obtain ⟨stored, known⟩ := knows.standing books claimed
        exact ⟨claim.jobId, claim.record, stored, voucher, failed ▸ known⟩
    obtain ⟨kept, moves, worked⟩ := rollback_books books caused
    have attempted : ∀ {last : World}, JobMoves world last → JobKnows handlers
        { phase with undone := phase.undone || phase.lockId = some delivery.lockId } last :=
      fun moves => { knows.moves moves with }
    rcases Fault.apply_cases (some.inj performed) with ⟨rfl, rfl⟩ | ⟨rfl, answered⟩
    · exact ⟨books, .refl _, attempted (.refl _)⟩
    · refine ⟨kept, moves, ?_⟩
      rcases answer with _ | _ | _
      · exact attempted moves
      · exact attempted moves
      · have rolledBack := worked (answered true rfl)
        refine { knows.moves moves with compensated := fun claim claimed given => ?_, rolled := ?_ }
        · simp only [JobPhase.next, Bool.or_eq_true] at given
          rcases given with given | claims
          · exact moves.compensated (knows.compensated claim claimed given)
          · have claimed : phase.claim = some claim := claimed
            simp only [JobPhase.claimsVoucher, claimed, any_some] at claims
            obtain ⟨voucher, vouches, same⟩ := (any_eq_true _ _).mp claims
            simp only [decide_eq_true_eq] at same
            subst same
            simpa [World.Compensated, vouches] using rolledBack
        · rintro _ ⟨⟩
          exact rolledBack
  | deleteChallenge challengeId =>
    obtain ⟨delivery, rolled, rfl⟩ := allowed
    obtain ⟨kept, moves⟩ := deleteChallenge_books books (knows.rolled delivery rolled)
    rcases Fault.apply_cases (some.inj performed) with ⟨-, rfl⟩ | ⟨rfl, -⟩
    · exact ⟨books, .refl _, knows⟩
    · exact ⟨kept, moves, knows.moves moves⟩
  | readChallenge challengeId =>
    cases performed
    refine ⟨books, .refl _, ?_⟩
    cases answered : choice.fault.answered (world.challenges challengeId) with
    | none => exact knows
    | some standing =>
      cases standing with
      | true => exact knows
      | false =>
        refine { knows with compensated := fun claim claimed given => ?_ }
        simp only [JobPhase.next, Bool.or_eq_true] at given
        rcases given with given | claims
        · exact knows.compensated claim claimed given
        · have claimed : phase.claim = some claim := claimed
          simp only [JobPhase.claimsVoucher, claimed, any_some] at claims
          obtain ⟨voucher, vouches, same⟩ := (any_eq_true _ _).mp claims
          simp only [decide_eq_true_eq] at same
          subst same
          rcases books.vouched _ _ _ (knows.standing books claimed).1 vouches with unused | rolledBack
          · rw [Fault.answered_some answered] at unused
            cases unused
          · simpa [World.Compensated, vouches] using rolledBack
  | putTerminal key outcome =>
    obtain ⟨claim, claimed, rfl, rfl, settled⟩ := allowed
    obtain ⟨owner, known⟩ := knows.claim claim claimed
    have given : claim.outcome = .failed → world.Compensated claim.record := by
      intro failed
      rcases settled failed with given | ⟨unvoiced, unpaid⟩
      · exact knows.compensated claim claimed given
      · simp [World.Compensated, unvoiced, unpaid]
    obtain ⟨kept, moves⟩ := putTerminal_books books owner known given
    rcases Fault.apply_cases (some.inj performed) with ⟨-, rfl⟩ | ⟨rfl, -⟩
    · exact ⟨books, .refl _, knows⟩
    · exact ⟨kept, moves, knows.moves moves⟩
  | randomUuid =>
    cases performed
    exact ⟨{ books with lookedAfter := fun calls => absurd allowed.1 calls }, { JobMoves.refl world with },
      { knows with atWork := fun _ => allowed.1, vouched := by rintro _ ⟨⟩ }⟩
  | acquireLock channelContract lockId =>
    rcases Fault.apply_cases (some.inj performed) with ⟨-, rfl⟩ | ⟨rfl, -⟩
    · exact ⟨books, .refl _, { knows with }⟩
    · split
      · exact ⟨{ books with lookedAfter := absurd allowed.1 }, { JobMoves.refl world with }, { knows with }⟩
      · exact ⟨books, .refl _, { knows with }⟩
  | readCumulative channelContract =>
    cases performed
    refine ⟨books, .refl _, ?_⟩
    cases choice.fault.answered (world.cumulative channelContract) with
    | none => exact knows
    | some current => exact { knows with }
  | verifyVoucher channelContract lockId challengeId amount kind =>
    simp only [perform] at performed
    split at performed
    · cases performed
      cases answered : choice.fault.answered Verified.rejected with
      | none => exact ⟨books, .refl _, { knows with }⟩
      | some verified =>
        cases Fault.answered_some answered
        exact ⟨books, .refl _, { knows with }⟩
    · split at performed
      · obtain ⟨kept, moves⟩ := acceptVoucher_books books allowed.1 channelContract lockId challengeId amount kind
        rcases Fault.apply_cases (some.inj performed) with ⟨rfl, rfl⟩ | ⟨rfl, answered⟩
        · exact ⟨books, .refl _, { knows with }⟩
        · refine ⟨kept, moves, ?_⟩
          cases answer with
          | none => exact { knows.moves moves with }
          | some verified =>
            cases answered verified rfl
            refine { knows.moves moves with vouched := fun delivery same => .inl ?_ }
            obtain ⟨previous, -, rfl⟩ := map_eq_some_iff.mp same
            simp [World.acceptVoucher]
      · cases performed
  | putJob jobId record =>
    obtain ⟨calls, -, -, backed, own⟩ := allowed
    have vouched : ∀ delivery, record.channelDelivery = some delivery →
        world.challenges delivery.challengeId = true ∨ world.RolledBack delivery.challengeId :=
      fun delivery held => knows.vouched delivery (own delivery held).2
    have put (effective : choice.fault ≠ .failed) {acceptedJobs : List (String × JobAuthRecord)}
        (accepted : acceptedJobs = world.acceptedJobs ∨ acceptedJobs = (jobId, record) :: world.acceptedJobs) :=
      putJob_books books calls backed vouched (truly calls effective).1 (truly calls effective).2 accepted
    cases fault : choice.fault with
    | none =>
      simp only [perform, fault] at performed
      cases performed
      obtain ⟨kept, moves⟩ := put (by simp [fault]) (.inr rfl)
      exact ⟨kept, moves, { knows.moves moves with }⟩
    | lost =>
      simp only [perform, fault, Fault.apply] at performed
      cases performed
      obtain ⟨kept, moves⟩ := put (by simp [fault]) (.inl rfl)
      exact ⟨kept, moves, knows.moves moves⟩
    | failed =>
      simp only [perform, fault, Fault.apply] at performed
      cases performed
      exact ⟨books, .refl _, knows⟩
  | respond lockId response =>
    cases performed
    exact ⟨{ books with lookedAfter := fun calls => { books.lookedAfter calls with } }, { JobMoves.refl world with },
      { knows with atWork := by rintro ⟨⟩ }⟩
  | expireJob jobId =>
    cases performed
    obtain ⟨kept, moves⟩ := expire_books books truly
    exact ⟨kept, moves, knows.moves moves⟩
  | _ => exact absurd trivial jobless

end Steps

theorem job_keeps {handlers : Prop} (start : World) {admits : proxyMachine.Admits}
    (truly : handlers → ∀ tid action choice world, admits tid action choice world → jobsTruly tid action choice world)
    (tid : ℕ) : (jobFlow handlers).Keeps (jobProtocol handlers start) admits tid (JobKnows handlers) where
  stable _ := fun _ _ _ _ _ _ moves knows => knows.moves moves
  step _ _ allowed _ books knows _ _ _ admitted performed :=
    job_step books knows allowed (fun calls => truly calls _ _ _ _ admitted) performed

/-! ## Runs -/

/-- These parties are at work from here on. -/
def working (pick : Pick) (start : World) (parties : ℕ → Party) : proxyMachine.Config :=
  ⟨start, fun tid => (parties tid).program pick⟩

section Runs

variable {handlers : Prop} {start : World} {admits : proxyMachine.Admits} {pick : Pick} {parties : ℕ → Party}
  {config after : proxyMachine.Config}

theorem job_checked (books : JobBooks handlers start start) (permitted : ∀ tid, handlers ∨ (parties tid).followUp)
    (truly : handlers → ∀ tid action choice world, admits tid action choice world → jobsTruly tid action choice world) :
    (jobProtocol handlers start).Checked admits (working pick start parties) := by
  refine ⟨books, fun tid => ?_⟩
  have nothing : JobKnows handlers {} start := ⟨nofun, nofun, nofun, nofun, nofun, nofun⟩
  exact ((program_follows (parties tid) pick (permitted tid)).holds (job_keeps start truly tid) nothing).mono
    fun _ _ _ => trivial

theorem job_moves (checked : (jobProtocol handlers start).Checked admits config)
    (run : Run admits config after) : JobMoves config.world after.world := by
  induction run with
  | refl => exact .refl _
  | tail earlier step ih =>
    obtain ⟨_, moves⟩ := ((Protocol.sound checked earlier).step step).2
    exact ih.trans moves

end Runs

end MppRouter.Proxy
