import MppRouter.Proxy.JobBooks

/-! # What becomes of asynchronous payments

Jobs that wait for their outcome get one, however polls and cron passes interleave, crash and run again. That a
payment is not forgotten on the way there depends on the job ids that merchants choose: a record is kept under
the id alone, and its outcome under route and id.
-/

namespace MppRouter.Proxy

open Concurrent Machine Mpp Refund Routes List Option
open Function (update update_self)

/-! ## One outcome -/

/-- Two jobs have a refund, a challenge or a lock in common. -/
def JobAuthRecord.Shares (record other : JobAuthRecord) : Prop :=
  (∃ proof proof', record.paymentProof = some proof ∧ other.paymentProof = some proof' ∧
    refundIdForPaymentTx proof.paymentTx = refundIdForPaymentTx proof'.paymentTx) ∨
  ∃ delivery delivery', record.channelDelivery = some delivery ∧ other.channelDelivery = some delivery' ∧
    (delivery.challengeId = delivery'.challengeId ∨
      delivery.channelContract = delivery'.channelContract ∧ delivery.lockId = delivery'.lockId)

/-- Jobs are stored, each paid for by itself, and nothing was done about any of them yet. -/
structure World.AwaitsJobs (world : World) : Prop where
  one : ∀ jobId record other, world.Stored jobId record → world.Stored jobId other →
    record.serviceId = other.serviceId → record = other
  backed : ∀ jobId record, world.Stored jobId record →
    record.paymentProof.isSome = true ∨ record.voucher.isSome = true
  apart : ∀ jobId record jobId' record', world.Stored jobId record → world.Stored jobId' record' →
    record.Shares record' → jobId = jobId' ∧ record = record'
  undecided : ∀ key, world.terminals key = none ∧ world.claimedFor key = none
  uncounted : world.counted = []
  unrefunded : ∀ jobId record proof, world.Stored jobId record → record.paymentProof = some proof →
    world.refunded proof = false
  standing : ∀ jobId record delivery, world.Stored jobId record → record.voucher = some delivery →
    world.challenges delivery.challengeId = true ∧ ¬ world.RolledBack delivery.challengeId

/-- The job's voucher was rolled back, or its payment has a refund record. -/
def World.GaveBack (world : World) (record : JobAuthRecord) : Prop :=
  (∃ delivery, record.voucher = some delivery ∧ delivery.rollback ∈ world.channelLog delivery.channelContract) ∨
    ∃ proof, record.paymentProof = some proof ∧ world.refunded proof = true

theorem World.AwaitsJobs.books {start : World} (awaits : start.AwaitsJobs) : JobBooks False start start where
  one := awaits.one
  decided key := by rw [(awaits.undecided key).1, (awaits.undecided key).2]; rfl
  named key record claimed := by
    rw [(awaits.undecided key).2] at claimed
    cases claimed
  counted counted member := by
    rw [awaits.uncounted] at member
    cases member
  compensated key record claimed := by
    rw [(awaits.undecided key).2] at claimed
    cases claimed
  vouched jobId record delivery stored voucher := .inl (awaits.standing jobId record delivery stored voucher).1
  held := nofun
  lookedAfter _ := ⟨fun _ _ => id, fun _ => .inl, fun _ _ => .inl, fun _ _ => .inl⟩

section Looked

variable {start world : World} {jobId : String} {record : JobAuthRecord}

variable {delivery : ChannelDelivery}

theorem voucher_delivery (voucher : record.voucher = some delivery) : record.channelDelivery = some delivery :=
  (filter_eq_some_iff.mp voucher).1

/-- A refund of the job's payment is owed to its own failure. -/
theorem refunded_failed (awaits : start.AwaitsJobs) (looked : LookedAfter start world)
    (stored : start.Stored jobId record) {proof : PaymentProof} (paid : record.paymentProof = some proof)
    (refunded : world.refunded proof = true) : world.outcome (record.terminalKey jobId) = some .failed := by
  rcases looked.refunded _ refunded with before | ⟨jobId', record', proof', stored', paid', named, failed⟩
  · rw [show (start.refunds _).isSome = false from awaits.unrefunded jobId record proof stored paid] at before
    cases before
  · obtain ⟨rfl, rfl⟩ := awaits.apart jobId record jobId' record' stored stored' (.inl ⟨proof, proof', paid, paid', named⟩)
    exact failed

theorem own_rollback (awaits : start.AwaitsJobs) (looked : LookedAfter start world)
    (stored : start.Stored jobId record) (voucher : record.voucher = some delivery)
    (rolledBack : world.RolledBack delivery.challengeId) :
    delivery.rollback ∈ world.channelLog delivery.channelContract := by
  obtain ⟨channelContract, lockId, before, after, member⟩ := rolledBack
  rcases looked.rolledBack channelContract _ member with old | ⟨jobId', record', delivery', stored', voucher', on, is, -⟩
  · exact absurd ⟨channelContract, lockId, before, after, old⟩ (awaits.standing jobId record delivery stored voucher).2
  · have same : delivery.challengeId = delivery'.challengeId := by
      simp only [ChannelDelivery.rollback, ChannelEvent.rolledBack.injEq] at is
      exact is.2.1
    obtain ⟨-, rfl⟩ := awaits.apart jobId record jobId' record' stored stored'
      (.inr ⟨delivery, delivery', voucher_delivery voucher, voucher_delivery voucher', .inl same⟩)
    cases voucher.symm.trans voucher'
    rw [is, ← on] at member
    exact member

/-- A failed outcome is done only when its job got back what it cost. -/
theorem done_gaveBack (awaits : start.AwaitsJobs) (books : JobBooks False start world)
    (stored : start.Stored jobId record) (kept : world.Stored jobId record)
    (done : world.terminals (record.terminalKey jobId) = some ⟨.failed, .done⟩) : world.GaveBack record := by
  have claimed : world.claimedFor (record.terminalKey jobId) = some record := by
    have decided := books.decided (record.terminalKey jobId)
    rw [done] at decided
    obtain ⟨other, isOther⟩ := isSome_iff_exists.mp decided.symm
    obtain ⟨held, route⟩ := books.named _ other isOther
    cases books.one jobId other record held kept route
    exact isOther
  have compensated := books.compensated _ record claimed done
  unfold World.Compensated at compensated
  cases voucher : record.voucher with
  | some delivery =>
    rw [voucher] at compensated
    exact .inl ⟨delivery, voucher, own_rollback awaits (books.lookedAfter id) stored voucher compensated⟩
  | none =>
    rw [voucher] at compensated
    rcases awaits.backed jobId record stored with paid | vouched
    · obtain ⟨proof, paid⟩ := isSome_iff_exists.mp paid
      exact .inr ⟨proof, paid, compensated proof paid⟩
    · rw [voucher] at vouched
      cases vouched

/-- The lock of an undecided job's delivery stays taken. -/
theorem undecided_locked (awaits : start.AwaitsJobs) (looked : LookedAfter start world)
    (stored : start.Stored jobId record) (held : record.channelDelivery = some delivery)
    (locked : start.locks delivery.channelContract = some delivery.lockId)
    (undecided : world.outcome (record.terminalKey jobId) = none) :
    world.locks delivery.channelContract = some delivery.lockId := by
  rcases looked.locked _ _ locked with standing | ⟨jobId', record', delivery', stored', held', on, named, known⟩
  · exact standing
  · obtain ⟨rfl, rfl⟩ := awaits.apart jobId record jobId' record' stored stored'
      (.inr ⟨delivery, delivery', held, held', .inr ⟨on.symm, named.symm⟩⟩)
    rw [undecided] at known
    cases known

end Looked

theorem async_outcome_once {pick : Pick} {start : World} {parties : ℕ → Party} (awaits : start.AwaitsJobs)
    (followUps : ∀ tid, (parties tid).followUp) {middle after : proxyMachine.Config}
    (earlier : Run (unrestricted proxyMachine) (working pick start parties) middle)
    (later : Run (unrestricted proxyMachine) middle after) :
    (∀ key outcome, middle.world.outcome key = some outcome → after.world.outcome key = some outcome) ∧
    (∀ counted ∈ after.world.counted, after.world.outcome counted.key = some counted.outcome) ∧
    ∀ jobId record, start.Stored jobId record →
      (∀ proof, record.paymentProof = some proof → after.world.refunded proof = true →
        after.world.outcome (record.terminalKey jobId) = some .failed) ∧
      (after.world.terminals (record.terminalKey jobId) = some ⟨.failed, .done⟩ → after.world.GaveBack record) ∧
      ∀ delivery, record.channelDelivery = some delivery →
        start.locks delivery.channelContract = some delivery.lockId →
        after.world.outcome (record.terminalKey jobId) = none →
        after.world.locks delivery.channelContract = some delivery.lockId := by
  have checked : (jobProtocol False start).Checked (unrestricted proxyMachine) (working pick start parties) :=
    job_checked awaits.books (fun tid => .inr (followUps tid)) nofun
  have midway := Protocol.sound checked earlier
  have books : JobBooks False start after.world := (Protocol.sound midway later).1
  have moves := job_moves checked (earlier.trans later)
  refine ⟨(job_moves midway later).outcome, fun counted member => (books.counted counted member).2, ?_⟩
  intro jobId record stored
  refine ⟨?_, ?_, ?_⟩
  · intro proof paid refunded
    exact refunded_failed awaits (books.lookedAfter id) stored paid refunded
  · exact done_gaveBack awaits books stored (moves.stored jobId record stored)
  · intro delivery held locked undecided
    exact undecided_locked awaits (books.lookedAfter id) stored held locked undecided

/-! A job whose time is up fails while its payer polls it as completed. -/

def pendingDelivery : ChannelDelivery :=
  { channelContract := "channel", lockId := ⟨7, 0⟩, challengeId := "challenge", acceptedAmount := 5
    previousAmount := 0, action := .voucher }

def pendingRecord : JobAuthRecord :=
  { stellarAddress := "G", serviceId := "video", upstreamHost := "video.example", upstreamJobPath := "/api/jobs/job"
    paidAt := 0, paymentProof := none, channelDelivery := some pendingDelivery }

def onePending : World :=
  { World.start with
    jobs := update (fun _ => []) "job" [some pendingRecord]
    cumulative := update (fun _ => none) "channel" (some ⟨5, false⟩)
    challenges := update (fun _ => false) "challenge" true
    locks := update (fun _ => none) "channel" (some pendingDelivery.lockId) }

theorem onePending_stored {jobId : String} {record : JobAuthRecord} (stored : onePending.Stored jobId record) :
    jobId = "job" ∧ record = pendingRecord := by
  by_cases same : jobId = "job"
  · subst same
    simpa [World.Stored, onePending] using stored
  · simp [World.Stored, onePending, same] at stored

theorem onePending_awaits : onePending.AwaitsJobs where
  one jobId record other stored stored' _ := by
    rw [(onePending_stored stored).2, (onePending_stored stored').2]
  backed jobId record stored := by
    rw [(onePending_stored stored).2]
    exact .inr (by decide)
  apart jobId record jobId' record' stored stored' _ := by
    obtain ⟨rfl, rfl⟩ := onePending_stored stored
    obtain ⟨rfl, rfl⟩ := onePending_stored stored'
    exact ⟨rfl, rfl⟩
  undecided _ := ⟨rfl, rfl⟩
  uncounted := rfl
  unrefunded _ _ _ _ _ := rfl
  standing jobId record delivery stored voucher := by
    obtain ⟨rfl, rfl⟩ := onePending_stored stored
    have own : pendingRecord.voucher = some pendingDelivery := by decide
    cases own.symm.trans voucher
    refine ⟨by decide, ?_⟩
    rintro ⟨_, _, _, _, member⟩
    cases member

def cronAndPayer : ℕ → Party
  | 0 => .cron 1
  | 1 => .jobStatus "job"
  | _ => .idle

/-- The cron's pass fails the job and rolls its voucher back, and crashes. -/
def timedOut : List (ℕ × Choice) :=
  [(0, { page := { keys := ["job"] } }), (0, {}), (0, {}), (0, { now := jobTimeoutMs }), (0, {}), (0, {})]

def completed : Choice :=
  { merchant := some { status := 200, body := some { text := "done", fields := some { status := some "completed" } } } }

theorem async_outcome_stays_failed : ∃ middle after,
    Run (unrestricted proxyMachine) (working head? onePending cronAndPayer) middle ∧
      Run (unrestricted proxyMachine) middle after ∧
      after.world.counted.length = 2 ∧ after.world.outcome ⟨"video", "job"⟩ = some .failed ∧
      ∀ counted ∈ after.world.counted, after.world.outcome counted.key = some counted.outcome := by
  obtain ⟨middle, after, earlier, later, passed⟩ := Config.exec_reaches_then (unrestricted proxyMachine)
    (working head? onePending cronAndPayer) timedOut [(1, {}), (1, {}), (1, completed), (1, {})]
    (fun middle after => after.counted.length = 2 && middle.outcome ⟨"video", "job"⟩ = some .failed) rfl
  simp only [Bool.and_eq_true, decide_eq_true_eq] at passed
  have followUps : ∀ tid, (cronAndPayer tid).followUp := by
    intro tid
    unfold cronAndPayer
    split <;> trivial
  obtain ⟨stays, counts, -⟩ := async_outcome_once onePending_awaits followUps earlier later
  exact ⟨middle, after, earlier, later, passed.1, stays _ _ passed.2, counts⟩

/-! ## An expired job is settled -/

section Expired

variable {weather : Weather proxyMachine} {tid : ℕ} {world after : World} {jobId : String} {record : JobAuthRecord}

/-- Nothing fails, and every read is of the latest write. -/
def Calm (weather : Weather proxyMachine) : Prop := ∀ action, (weather action).fault = .none ∧ (weather action).stale = 0

theorem Calm.applies {A : Type} (calm : Calm weather) (action : Action) {operation : World → A × World} {value : A}
    (applied : operation world = (value, after)) :
    some ((weather action).fault.apply operation world) = some (some value, after) := by
  rw [(calm action).1, Fault.apply, applied]

theorem Calm.answered {A : Type} (calm : Calm weather) (action : Action) (answer : A) :
    some ((weather action).fault.answered answer, world) = some (some answer, world) := by
  rw [(calm action).1]
  rfl

theorem under_call (action : Action) {answer : action.Answer}
    (performed : perform tid action (weather action) world = some (answer, after)) :
    under weather tid (Prog.call action) world = some (answer, after) := by
  unfold Prog.call under
  rw [show proxyMachine.perform tid action (weather action) world = _ from performed]
  rfl

/-- The job's voucher is still the latest, or its payment can be refunded. -/
def World.CanGiveBack (world : World) (record : JobAuthRecord) : Prop :=
  (∃ delivery, record.voucher = some delivery ∧
    (delivery.rollbackCumulative (world.cumulative delivery.channelContract)).isSome = true) ∨
  record.voucher = none ∧ ∃ proof, record.paymentProof = some proof ∧ positiveAtomic proof.amountAtomic = true

theorem createRefund_calm (calm : Calm weather) (cause : Option TerminalKey) {input : EnqueueInput}
    (positive : positiveAtomic input.proof.amountAtomic = true) : ∃ stored after,
    perform tid (.createRefund cause input) (weather (.createRefund cause input)) world = some (some stored, after) ∧
      after.refunded input.proof = true := by
  set choice := weather (.createRefund cause input)
  set refundId := refundIdForPaymentTx input.proof.paymentTx with named
  obtain ⟨decision, decides⟩ : ∃ decision, Refund.enqueueRefund refundId choice.publicId choice.now input
      (world.refunds refundId) = .ok decision := by
    simp only [Refund.enqueueRefund, positive, not_true_eq_false, if_false]
    cases world.refunds refundId <;> exact ⟨_, rfl⟩
  refine ⟨decision.result, (world.createRefund refundId decision).2, ?_, ?_⟩
  · simp only [perform, ← named, decides]
    exact calm.applies (.createRefund cause input) rfl
  · simpa [World.refunded, World.createRefund, ← named] using createRefund_some decides

variable (calm : Calm weather) (able : world.CanGiveBack record)

include calm able

theorem compensate_calm (key : TerminalKey) :
    ∃ after, Ends weather tid (compensate key record .failed (some .timeout)) world (some true) after ∧
      after.GaveBack record := by
  rcases able with ⟨delivery, voucher, latest⟩ | ⟨voucher, proof, paid, positive⟩
  · obtain ⟨rolled, rolls, logged⟩ : ∃ rolled : World, world.rollback delivery = (true, rolled) ∧
        delivery.rollback ∈ rolled.channelLog delivery.channelContract := by
      obtain ⟨restored, rolls⟩ := isSome_iff_exists.mp latest
      simp only [World.rollback, rolls]
      exact ⟨_, rfl, by simp [ChannelDelivery.rollback]⟩
    refine ⟨{ rolled with challenges := update rolled.challenges delivery.challengeId false }, ?_,
      .inl ⟨delivery, voucher, logged⟩⟩
    simp only [compensate, voucher]
    refine .seq (under_call (.rollbackCumulative delivery) (calm.applies _ rolls)) ?_
    exact .seq (under_call (.deleteChallenge delivery.challengeId) (calm.applies _ rfl)) rfl
  · obtain ⟨stored, after, creates, refunded⟩ := createRefund_calm calm (some key)
      (show positiveAtomic (jobRefund record .timeout proof).proof.amountAtomic = true from positive)
    refine ⟨after, ?_, .inr ⟨proof, paid, refunded⟩⟩
    simp only [compensate, voucher, paid]
    refine .seq (?_ : Ends weather tid (enqueueRefund (some key) _) world (some stored) after) rfl
    exact .seq (under_call _ creates) (.seq (under_call (.publishRefund _ _) (calm.answered _ _)) rfl)

theorem completeTerminal_calm (key : TerminalKey) :
    ∃ after, Ends weather tid (completeTerminal key record .failed (some .timeout)) world (some .done) after ∧
      after.terminals key = some ⟨.failed, .done⟩ ∧ after.GaveBack record := by
  obtain ⟨middle, compensates, gaveBack⟩ := compensate_calm calm able key
  obtain ⟨released, releases, same⟩ : ∃ released,
      Ends weather tid (releaseJobLock key record) middle (some ()) released ∧ (middle.GaveBack record → released.GaveBack record) := by
    unfold releaseJobLock
    cases record.channelDelivery with
    | none => exact ⟨middle, rfl, id⟩
    | some delivery =>
      refine ⟨_, under_call (.releaseLock (some key) _ _) (calm.applies _ rfl), ?_⟩
      unfold World.releaseLock
      split <;> exact id
  refine ⟨{ released with terminals := update released.terminals key (some ⟨.failed, .done⟩) }, ?_, update_self ..,
    same gaveBack⟩
  refine .seq compensates (.seq releases ?_)
  exact .seq (under_call (.putTerminal _ _) (calm.applies _ rfl)) rfl

/-- A pass of the cron that nothing disturbs fails an expired job and gives back what it cost. -/
theorem expired_gaveBack (held : (world.jobs jobId).head? = some (some record))
    (expired : record.paidAt + jobTimeoutMs ≤ (weather .now).now) (unchecked : (weather (.getChecked jobId)).flag = false)
    (undecided : ∀ terminal ∈ world.terminals (record.terminalKey jobId), terminal = ⟨.failed, .processing⟩) :
    ∃ after, Ends weather tid (reconcileJob jobId) world (some ()) after ∧
      after.terminals (record.terminalKey jobId) = some ⟨.failed, .done⟩ ∧ after.GaveBack record := by
  set key := record.terminalKey jobId
  have claims : (world.claimTerminal key .failed record).1 = .claimed ∨
      (world.claimTerminal key .failed record).1 = .retry := by
    cases found : world.terminals key with
    | none => simp [World.claimTerminal, claimTerminal, found, Decision.result]
    | some terminal => simp [World.claimTerminal, claimTerminal, found, undecided terminal found, Decision.result]
  have claimedAble : (world.claimTerminal key .failed record).2.CanGiveBack record := able
  obtain ⟨after, completes, settled⟩ := completeTerminal_calm calm claimedAble key
  refine ⟨after, ?_, settled⟩
  have finishes : Ends weather tid (finishAsyncDelivery jobId record .failed (some .timeout)) world (some .done) after := by
    rcases claims with claims | claims <;>
      exact .seq (under_call (.claimTerminal key .failed record) (calm.applies _ (Prod.ext claims rfl))) completes
  have found : ((world.jobs jobId)[(weather (.getJob jobId)).stale]?).join = some record := by
    rw [(calm _).2, ← head?_eq_getElem?, held]
    rfl
  have backed : (record.paymentProof.isSome || record.channelDelivery.isSome) = true := by
    rcases able with ⟨delivery, voucher, -⟩ | ⟨-, proof, paid, -⟩
    · simp [voucher_delivery voucher]
    · simp [paid]
  have timed : Ends weather tid (ask .now) world (some (weather .now).now) world := rfl
  unfold reconcileJob
  refine .seq (under_call (.getChecked jobId) (calm.answered _ _)) ?_
  rw [unchecked]
  refine .seq (under_call (.getJob jobId) (calm.answered _ _)) ?_
  simp only [found, backed]
  refine .seq timed ?_
  rw [if_pos expired]
  exact .seq finishes (under_call (.putChecked jobId) (calm.answered _ _))

end Expired

/-- The job's time is up. -/
def timeIsUp : Weather proxyMachine := fun _ => { now := jobTimeoutMs }

example : ∃ after, Ends timeIsUp 0 (reconcileJob "job") onePending (some ()) after ∧
    after.terminals (pendingRecord.terminalKey "job") = some ⟨.failed, .done⟩ ∧ after.GaveBack pendingRecord :=
  expired_gaveBack (fun _ => ⟨rfl, rfl⟩) (.inl ⟨pendingDelivery, rfl, rfl⟩) rfl (by decide) rfl nofun

/-! ## Nobody's payment is forgotten -/

/-- Until the outcome of an accepted job was claimed for it, its own record is what the store holds; no run took
the outcome of one job for that of another, and a failed job whose outcome is done got back what it cost. -/
structure World.Remembers (world : World) : Prop where
  kept : ∀ jobId record, (jobId, record) ∈ world.acceptedJobs →
    (record.paymentProof.isSome = true ∨ record.voucher.isSome = true) ∧
      (world.Decided jobId record ∨ (world.jobs jobId).head? = some (some record))
  own : ∀ counted ∈ world.counted, counted.claimedFor = counted.record
  compensated : ∀ jobId record, (jobId, record) ∈ world.acceptedJobs → world.Decided jobId record →
    world.terminals (record.terminalKey jobId) = some ⟨.failed, .done⟩ → world.Compensated record

theorem start_books : JobBooks True World.start World.start where
  one _ _ _ stored := absurd stored not_mem_nil
  decided _ := rfl
  named _ _ claimed := absurd claimed (some_ne_none _).symm
  counted _ member := absurd member not_mem_nil
  compensated _ _ claimed := absurd claimed (some_ne_none _).symm
  vouched _ _ _ stored := absurd stored not_mem_nil
  held _ _ _ member := absurd member not_mem_nil
  lookedAfter calls := absurd trivial calls

theorem remembers_truly {pick : Pick} {parties : ℕ → Party} {after : proxyMachine.Config}
    (run : Run jobsTruly (working pick World.start parties) after) : after.world.Remembers := by
  have checked : (jobProtocol True World.start).Checked jobsTruly (working pick World.start parties) :=
    job_checked start_books (fun _ => .inl trivial) fun _ _ _ _ _ => id
  have books : JobBooks True World.start after.world := (Protocol.sound checked run).1
  constructor
  · intro jobId record accepted
    exact (books.held trivial jobId record accepted).2
  · intro counted member
    exact (books.counted counted member).1
  · intro jobId record _ decided done
    exact books.compensated _ record decided done

instance (tid : ℕ) (action : Action) (choice : Choice) (world : World) :
    Decidable (jobsTruly tid action choice world) := by
  apply @Action.casesOn (fun action => Decidable (jobsTruly tid action choice world)) action <;> intros <;>
    dsimp only [jobsTruly] <;> infer_instance

instance (world : World) (jobId : String) (record : JobAuthRecord) : Decidable (world.Decided jobId record) := by
  unfold World.Decided
  infer_instance

/-- A charge for a video, by the account whose address repeats this letter. -/
def videoCharge (routeId letter : String) : MeteredCall :=
  let account := "G" ++ String.join (replicate 55 letter)
  { route := { id := routeId, upstreamHost := "video.example", upstreamAuth := true }
    auth := ⟨some ⟨some "stellar", some "charge", some ("did:pkh:stellar:pubnet:" ++ account)⟩, false⟩
    quote := priced "10000", merchantHost := "video.example", idempotencyKey := none
    settledPayment := some
      { paymentId := letter, paymentTx := letter, payer := account, recipient := "router", asset := "USDC"
        amountAtomic := "1000000", mode := .charge }
    channelDelivery := none }

/-- Two buyers on two routes. -/
def twoCharges : ℕ → Party
  | 0 => .charge (videoCharge "video_short" "A")
  | 1 => .charge (videoCharge "video_long" "B")
  | _ => .idle

/-- The merchant accepts the work as this job. -/
def acceptsAs (jobId : String) : Choice :=
  { merchant := some { status := 202, body := some { text := "queued", fields := some { jobId := some ⟨jobId, true⟩ } } } }

def World.forgets (world : World) : Bool :=
  world.acceptedJobs.any fun job =>
    !decide (world.Decided job.1 job.2) && (world.jobs job.1).head? ≠ some (some job.2)

theorem same_job_id_forgets : ∃ after,
    Run (unrestricted proxyMachine) (working head? World.start twoCharges) after ∧
      ¬ after.world.Remembers := by
  obtain ⟨after, run, passed⟩ := Config.exec_reaches (unrestricted proxyMachine)
    (working head? World.start twoCharges)
    [(0, acceptsAs "1"), (0, {}), (0, {}), (1, acceptsAs "1"), (1, {}), (1, {})] World.forgets (by decide +kernel)
  refine ⟨after, run, fun remembers => ?_⟩
  obtain ⟨job, accepted, forgotten⟩ := any_eq_true.mp passed
  simp only [Bool.and_eq_true, Bool.not_eq_true', decide_eq_false_iff_not, decide_eq_true_eq] at forgotten
  rcases (remembers.kept job.1 job.2 accepted).2 with decided | held
  · exact forgotten.1 decided
  · exact forgotten.2 held

/-- Two buyers, and a pass of the cron between them. -/
def chargesAndCron : ℕ → Party
  | 2 => .cron 1
  | tid => twoCharges tid

/-- The first job times out and is refunded before the second takes over its id. -/
def oneAfterTheOther : List (ℕ × Choice) :=
  [(0, acceptsAs "1"), (0, {}), (0, {}), (2, { page := { keys := ["1"] } }), (2, {}), (2, {}),
    (2, { now := jobTimeoutMs }), (2, {}), (2, {}), (2, {}), (2, {}), (1, acceptsAs "1"), (1, {}), (1, {})]

theorem same_job_id_later : ∃ after, Run jobsTruly (working head? World.start chargesAndCron) after ∧
      after.world.acceptedJobs.length = 2 ∧ after.world.counted.length = 1 ∧ after.world.Remembers := by
  obtain ⟨after, run, passed⟩ := Config.exec_reaches jobsTruly
    (working head? World.start chargesAndCron)
    oneAfterTheOther (fun world => world.acceptedJobs.length = 2 && world.counted.length = 1) (by decide +kernel)
  simp only [Bool.and_eq_true, decide_eq_true_eq] at passed
  exact ⟨after, run, passed.1, passed.2, remembers_truly run⟩

end MppRouter.Proxy
