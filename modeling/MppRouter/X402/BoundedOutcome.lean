import MppRouter.Core.Performs
import MppRouter.X402.SettlementStages

/-! # What a bounded settlement comes to is so

The payment library hides its attempts, so what a settlement came to is read off the trace its hooks wrote, at the
first of the attempts' end and the deadline. What that says of the chain is so, and stays so whatever the attempts
still do behind the deadline.
-/

namespace MppRouter.X402

open Concurrent Typestate List Machine

/-- The request, once its settlement has come to something. -/
def recordSettlement (orderId startedAt : ℕ) (result : StellarX402SettleResult) : Routine Unit := do
  let final := applyResult { orderId := orderId } result
  let written ← ask (.recordOrder final)
  if written ∧ result.outcome ≠ .unknown then
    let _ ← ask (.deleteMarker orderId)
    pure ()
  else if result.outcome = .unknown then writeOpen startedAt final
  else pure ()

theorem settleAndRecordX402_eq : settleAndRecordX402 = (do
    let (orderId, startedAt) ← ask .openOrder
    let _ ← ask (.recordOrder { orderId := orderId })
    writeOpen startedAt { orderId := orderId }
    let result ← settleStellarX402 orderId
    recordSettlement orderId startedAt result) := rfl

/-- A row tells which result it was made of, as far as the row tells it. -/
theorem applyResult_inj {orderId other : ℕ} {result found : StellarX402SettleResult}
    (same : applyResult { orderId := orderId } result = applyResult { orderId := other } found) :
    orderId = other ∧ result.outcome = found.outcome ∧ result.attemptedTxs = found.attemptedTxs ∧
      (result.outcome = .settled → result.transaction = found.transaction) := by
  obtain ⟨result_success, outcome, transaction, errorReason, attemptedTxs⟩ := result
  obtain ⟨found_success, outcome', transaction', errorReason', attemptedTxs'⟩ := found
  simp only [applyResult, OrderLedgerEntry.mk.injEq] at same
  obtain ⟨order, reference, status, txs, -⟩ := same
  have outcomes : outcome = outcome' := by cases outcome <;> cases outcome' <;> first | rfl | cases status
  subst outcomes
  refine ⟨order, rfl, txs, fun settled => ?_⟩
  have settled : outcome = .settled := settled
  rwa [if_pos settled, if_pos settled] at reference

/-! ## The programs -/

section Programs

variable {orderId startedAt : ℕ}

theorem writeOpen_follows {entry : OrderLedgerEntry} (stage : Stage) :
    stageFlow.Follows (writeOpen startedAt entry) (fun _ after => after = stage) stage := by
  unfold writeOpen
  apply Follows.ask trivial
  intro written
  cases written with
  | none =>
    apply Follows.ask trivial
    intro again
    rfl
  | some done => rfl

theorem recordSettlement_follows (result : StellarX402SettleResult) :
    stageFlow.Follows (recordSettlement orderId startedAt result) anyhow (.concluded orderId result) := by
  unfold recordSettlement
  apply Follows.ask rfl
  intro written
  split
  · apply Follows.ask trivial
    intro deleted
    trivial
  · split
    · exact (writeOpen_follows _).loose
    · trivial

theorem settleStellarX402_follows :
    stageFlow.Follows (settleStellarX402 orderId) (fun result after => after = .concluded orderId result)
      (.opened orderId) := by
  unfold settleStellarX402
  apply Follows.ask rfl
  intro started
  cases started with
  | false => rfl
  | true =>
    apply Follows.ask rfl
    intro result
    apply Follows.ask
    · exact ⟨result, rfl, rfl⟩
    intro trace
    rfl

theorem settleAndRecordX402_follows :
    stageFlow.Follows settleAndRecordX402 anyhow .opening := by
  rw [settleAndRecordX402_eq]
  apply Follows.ask rfl
  rintro ⟨orderId, startedAt⟩
  apply Follows.ask rfl
  intro recorded
  apply Follows.bind
  apply (writeOpen_follows _).mono
  rintro _ _ rfl
  apply Follows.bind
  apply settleStellarX402_follows.mono
  rintro result _ rfl
  exact recordSettlement_follows result

/-- Whatever the library may submit is in the trace, and it saw whatever it takes for a success. -/
def Agrees (orderId : ℕ) (phase : LibraryPhase) (stage : Stage) : Prop :=
  ∃ seen, stage = .running seen ∧ seen.orderId = orderId ∧ (∀ hash ∈ phase.signed, hash ∈ seen.noted) ∧
    (∀ hash ∈ phase.sent, hash ∈ seen.noted) ∧ ∀ hash ∈ phase.found, hash ∈ seen.noted ∧ hash ∈ seen.succeeded

theorem signTransaction_follows {networkPassphrase : Option String} (named : networkPassphrase.isSome = true)
    {phase : LibraryPhase} {stage : Stage} (agrees : Agrees orderId phase stage) :
    stageFlow.Follows (signTransaction orderId startedAt networkPassphrase)
      (fun signed after => Agrees orderId (phase.next (.signTransaction networkPassphrase) signed) after) stage := by
  obtain ⟨network, rfl⟩ := Option.isSome_iff_exists.mp named
  obtain ⟨seen, rfl, rfl, signed, sent, found⟩ := agrees
  have before : Agrees seen.orderId phase (.running seen) := ⟨seen, rfl, rfl, signed, sent, found⟩
  unfold signTransaction
  apply Follows.ask trivial
  intro trace
  split
  · exact before
  apply Follows.ask
  · exact ⟨seen, rfl, rfl⟩
  intro answer
  cases answer with
  | threw => exact before
  | error => exact before
  | signed hash =>
    apply Follows.ask
    · exact ⟨_, rfl, rfl, rfl⟩
    intro hashes
    apply Follows.bind
    apply (writeOpen_follows _).mono
    rintro _ _ rfl
    refine ⟨_, rfl, rfl, ?_, ?_, ?_⟩
    · intro other member
      rcases mem_cons.mp member with rfl | earlier
      · exact mem_cons_self
      · exact mem_cons_of_mem _ (signed other earlier)
    · exact fun other member => mem_cons_of_mem _ (sent other member)
    · exact fun other member => ⟨mem_cons_of_mem _ (found other member).1, (found other member).2⟩

theorem sendTransaction_follows {hash : Hash} {phase : LibraryPhase} (had : hash ∈ phase.signed) {stage : Stage}
    (agrees : Agrees orderId phase stage) : stageFlow.Follows (sendTransaction orderId hash)
      (fun answer after => Agrees orderId (phase.next (.sendTransaction hash) answer) after) stage := by
  obtain ⟨seen, rfl, rfl, signed, sent, found⟩ := agrees
  have now : Agrees seen.orderId { phase with sent := hash :: phase.sent } (.running seen) := by
    refine ⟨seen, rfl, rfl, signed, fun other member => ?_, found⟩
    rcases mem_cons.mp member with rfl | earlier
    · exact signed other had
    · exact sent other earlier
  unfold sendTransaction
  apply Follows.ask
  · exact ⟨seen, rfl, rfl, signed hash had⟩
  intro answer
  split
  · apply Follows.ask
    · exact ⟨seen, rfl, rfl⟩
    intro noted
    exact now
  · exact now

theorem pollForTransaction_follows {hash : Hash} {phase : LibraryPhase} (had : hash ∈ phase.sent) (rounds : ℕ)
    {stage : Stage} (agrees : Agrees orderId phase stage) :
    stageFlow.Follows (pollForTransaction orderId hash rounds)
      (fun answer after => Agrees orderId (phase.next (.pollForTransaction hash) answer) after) stage := by
  induction rounds generalizing stage with
  | zero => exact agrees
  | succ rounds ih =>
    unfold pollForTransaction
    apply Follows.ask trivial
    intro now
    apply Follows.ask trivial
    intro trace
    obtain ⟨seen, rfl, rfl, signed, sent, found⟩ := agrees
    have before : Agrees seen.orderId phase (.running seen) := ⟨seen, rfl, rfl, signed, sent, found⟩
    show stageFlow.Follows (if _ then _ else _) _ _
    split
    · apply Follows.ask trivial
      intro status
      rcases status with _ | _ | _ | _
      · apply Follows.ask trivial
        intro asleep
        apply Follows.ask trivial
        intro slept
        exact ih before
      · refine ⟨_, rfl, rfl, signed, sent, fun other member => ?_⟩
        rcases mem_cons.mp member with rfl | earlier
        · exact ⟨sent other had, mem_cons_self⟩
        · exact ⟨(found other earlier).1, mem_cons_of_mem _ (found other earlier).2⟩
      · apply Follows.ask
        · exact ⟨_, rfl, rfl, hash, sent hash had, mem_cons_self⟩
        intro noted
        exact ⟨_, rfl, rfl, signed, sent, found⟩
      · apply Follows.ask trivial
        intro asleep
        apply Follows.ask trivial
        intro slept
        exact ih before
    · exact before

theorem hook_follows (phase : LibraryPhase) (call : LibraryCall) (allowed : phase.allowed call) (stage : Stage)
    (agrees : Agrees orderId phase stage) :
    stageFlow.Follows (hook orderId startedAt call) (fun answer after => Agrees orderId (phase.next call answer) after)
      stage := by
  cases call with
  | request method =>
    apply Follows.ask trivial
    intro answer
    exact agrees
  | signTransaction networkPassphrase => exact signTransaction_follows allowed agrees
  | sendTransaction hash => exact sendTransaction_follows allowed agrees
  | pollForTransaction hash => exact pollForTransaction_follows allowed _ agrees

/-- The runner saw on the chain what this result calls a success. -/
def Stage.Proves (orderId : ℕ) (result : SettleAttemptResult) (stage : Stage) : Prop :=
  ∃ seen, stage = .running seen ∧ seen.orderId = orderId ∧
    (result.success = true → ∃ hash ∈ seen.noted, hash ∈ seen.succeeded ∧ result.transaction = some hash)

theorem attempt_follows {settle : Library} (proper : settle.Proper) {seen : Seen} :
    stageFlow.Follows (attempt settle seen.orderId startedAt)
      (fun result after => after.Proves seen.orderId result) (.running seen) := by
  unfold attempt
  apply Follows.ask trivial
  intro ready
  cases ready with
  | false => exact ⟨seen, rfl, rfl, nofun⟩
  | true =>
    apply Follows.bind
    have fresh : Agrees seen.orderId {} (.running seen) := ⟨seen, rfl, rfl, nofun, nofun, nofun⟩
    apply (Follows.interpret hook_follows proper fresh).mono
    rintro ended after ⟨phase, success, last, rfl, order, -, -, found⟩
    cases ended with
    | error errorReason => exact ⟨last, rfl, order, nofun⟩
    | ok result =>
      refine ⟨last, rfl, order, fun succeeded => ?_⟩
      obtain ⟨hash, member, same⟩ := success succeeded
      exact ⟨hash, (found hash member).1, (found hash member).2, same⟩

theorem attempts_follows {settle : Library} (proper : settle.Proper) :
    stageFlow.Follows (attempts settle orderId) anyhow (.waiting orderId) := by
  have finishes : ∀ (result : SettleAttemptResult) (stage : Stage), stage.Proves orderId result →
      stageFlow.Follows (ask (.finish orderId result)) anyhow stage := by
    rintro result stage ⟨seen, rfl, rfl, proven⟩
    exact Follows.call ⟨seen, rfl, rfl, proven⟩ fun _ => trivial
  unfold attempts
  apply Follows.ask rfl
  intro startedAt
  apply Follows.bind
  have attempted := @attempt_follows startedAt settle proper { orderId := orderId }
  apply attempted.mono
  rintro result stage ⟨seen, rfl, rfl, proven⟩
  apply Follows.bind
  apply Follows.ask trivial
  intro trace
  apply Follows.ask trivial
  intro now
  show stageFlow.Follows (if _ then _ else _) _ _
  split
  · apply Follows.ask trivial
    intro asleep
    apply Follows.ask trivial
    intro slept
    apply Follows.bind
    exact (attempt_follows proper).mono finishes
  · exact finishes result _ ⟨seen, rfl, rfl, proven⟩

end Programs

/-! ## The other parties -/

/-- What a party does that settles nothing itself. -/
def Apart (action : Action) : Prop := action.aside = true ∨ ∃ hash successful, action = .applyTransaction hash successful

theorem apart_follows {program : Routine Unit} (performs : program.Performs Apart) :
    stageFlow.Follows program anyhow .aside := by
  apply (Follows.of_performs _ performs).mono
  · exact fun _ _ _ => trivial
  · intro action apart
    rcases apart with aside | ⟨hash, successful, rfl⟩
    · cases action with
      | getTransaction hash =>
        refine ⟨trivial, fun answer => ?_⟩
        rcases answer with _ | _ | _ | _ <;> rfl
      | _ => first | exact ⟨trivial, fun _ => rfl⟩ | cases aside
    · exact ⟨trivial, fun _ => rfl⟩

theorem lookUp_performs (hashes : List Hash) (readAll : Bool) : (lookUp hashes readAll).Performs Apart := by
  induction hashes generalizing readAll with
  | nil => trivial
  | cons hash hashes ih =>
    refine ⟨.inl rfl, fun answer => ?_⟩
    rcases answer with _ | _ | _ | _
    · exact ih false
    · trivial
    · exact ih readAll
    · exact ih readAll

theorem resolveEach_performs (now : ℕ) (names : List ℕ) : Throwing.Performs Apart (resolveEach now names) := by
  induction names with
  | nil => trivial
  | cons name names ih =>
    refine ⟨.inl rfl, fun answer => ?_⟩
    rcases answer with _ | _ | marker
    · trivial
    · exact ih
    show Throwing.Performs Apart (if _ then resolveEach now names else _)
    split
    · exact ih
    · apply Throwing.Performs.bind
      · apply Prog.Performs.bind
        · exact Prog.Performs.bind (lookUp_performs _ _) fun _ => trivial
        · exact fun _ => trivial
      · intro concluded
        cases concluded with
        | none => exact ih
        | some final =>
          refine ⟨.inl rfl, fun written => ?_⟩
          show Throwing.Performs Apart (if _ then _ else _)
          split
          · refine ⟨.inl rfl, fun deleted => ?_⟩
            cases deleted with
            | none => trivial
            | some done => exact ih
          · exact ih

theorem resolveOpenX402Settlements_performs : resolveOpenX402Settlements.Performs Apart := by
  apply Prog.Performs.bind
  · refine ⟨.inl rfl, fun listed => ?_⟩
    cases listed with
    | none => trivial
    | some listed =>
      show Throwing.Performs Apart (if _ then _ else _)
      split
      · trivial
      · exact ⟨.inl rfl, fun now => resolveEach_performs now listed⟩
  · exact fun _ => trivial

theorem surroundings_performs (events : List Event) : (surroundings events).Performs Apart := by
  induction events with
  | nil => trivial
  | cons event events ih =>
    cases event with
    | tick elapsed => exact ⟨.inl rfl, fun _ => ih⟩
    | applyTransaction hash successful => exact ⟨.inr ⟨hash, successful, rfl⟩, fun _ => ih⟩

/-! ## Every run -/

/-- Every party sets out from a stage it knows. -/
theorem party_follows {settle : ℕ → Library} (proper : ∀ orderId, (settle orderId).Proper) (parties : ℕ → Party)
    (tid : ℕ) : ∃ stage : Stage, stage.Knows parties tid .start ∧
      stageFlow.Follows ((parties tid).program settle) anyhow stage := by
  have apart : parties tid ≠ .request → Stage.aside.Knows parties tid .start := id
  cases party : parties tid with
  | idle => exact ⟨.aside, apart (by rw [party]; nofun), trivial⟩
  | request => exact ⟨.opening, rfl, settleAndRecordX402_follows⟩
  | attempts orderId => exact ⟨.waiting orderId, apart (by rw [party]; nofun), attempts_follows (proper orderId)⟩
  | resolver =>
    exact ⟨.aside, apart (by rw [party]; nofun), apart_follows resolveOpenX402Settlements_performs⟩
  | surroundings events => exact ⟨.aside, apart (by rw [party]; nofun), apart_follows (surroundings_performs events)⟩

theorem returned_bounded {parties : ℕ → Party} {tid orderId startedAt : ℕ} {result : StellarX402SettleResult}
    {world : World} (request : parties tid = .request) {stage : Stage} (knows : stage.Knows parties tid world)
    (follows : stageFlow.Follows (recordSettlement orderId startedAt result) anyhow stage) :
    orderId = tid ∧ world.Bounded orderId result := by
  have records : stage.records (applyResult { orderId := orderId } result) := follows.1
  cases stage with
  | aside => exact absurd request knows
  | opened other =>
    have pending : result.outcome.status = .pending := records
    cases outcome : result.outcome <;> rw [outcome] at pending <;> cases pending
  | concluded other found =>
    obtain ⟨rfl, bounded⟩ := knows
    obtain ⟨rfl, outcome, txs, transaction⟩ := applyResult_inj records
    refine ⟨rfl, ?_⟩
    constructor
    · intro settled
      rw [transaction settled]
      exact bounded.settled (outcome.symm.trans settled)
    · exact fun failed => bounded.failed (outcome.symm.trans failed)
    · rw [txs]
      exact bounded.listed
    · exact bounded.stopped
  | _ => cases records

/-- What a bounded settlement returns is so, and stays so in every run: a settled one has an envelope on the chain, no
envelope of a failed one can ever be included, and whatever is ever submitted for it is listed. -/
theorem bounded_outcome_sound {settle : ℕ → Library} (proper : ∀ orderId, (settle orderId).Proper)
    {parties : ℕ → Party} {tid orderId startedAt : ℕ} {result : StellarX402SettleResult}
    {config later : settlementMachine.Config} (request : parties tid = .request)
    (run : Run (unrestricted settlementMachine) (settling settle parties) config)
    (returned : config.threads tid = recordSettlement orderId startedAt result)
    (onward : Run (unrestricted settlementMachine) config later) :
    (result.outcome = .settled →
      ∃ hash, result.transaction = some hash ∧ later.world.SignedFor orderId hash ∧ later.world.OnChain hash) ∧
    (result.outcome = .failed → ∀ hash, later.world.SignedFor orderId hash → ¬later.world.OnChain hash) ∧
    ∀ hash, later.world.SignedFor orderId hash → later.world.Submitted hash → hash ∈ result.attemptedTxs := by
  have keeps := fun tid => stageFlow_keeps (unrestricted settlementMachine) parties tid
  have initial : outcomeProtocol.Inv (settling settle parties).world := Accounts.start
  obtain ⟨accounts, stands⟩ := reached keeps initial (party_follows proper parties) run
  obtain ⟨stage, knows, follows⟩ := stands tid
  rw [returned] at follows
  obtain ⟨-, bounded⟩ := returned_bounded request knows follows
  have bounded := bounded.lasts (Protocol.guaranteed (checked_each keeps accounts stands) onward)
  have accounts := (reached keeps accounts stands onward).1
  exact ⟨bounded.settled, fun failed hash signed => bounded.not_onChain accounts failed signed, bounded.listed⟩

/-- The request has its result and records it next. -/
private theorem settledAtOnce_returns :
    ((settling (fun _ => exactSettle) oneRequest).exec (unrestricted settlementMachine)
      (settledAtOnce.take 21)).isSome = true := by decide +kernel

theorem bounded_outcome_once : ∃ config,
    Run (unrestricted settlementMachine) (settling (fun _ => exactSettle) oneRequest) config ∧
      ∃ hash, some "first" = some hash ∧ config.world.SignedFor 0 hash ∧ config.world.OnChain hash := by
  let config := ((settling (fun _ => exactSettle) oneRequest).exec (unrestricted settlementMachine)
    (settledAtOnce.take 21)).get settledAtOnce_returns
  have run := Config.exec_run (Option.some_get settledAtOnce_returns).symm
  have returned : config.threads 0 = recordSettlement 0 0
      { success := true, outcome := .settled, transaction := some "first", attemptedTxs := ["first"] } := by rfl
  have request : oneRequest 0 = .request := rfl
  obtain ⟨settled, -⟩ := bounded_outcome_sound (fun _ => exactSettle_proper) request run returned .refl
  exact ⟨config, run, settled rfl⟩

end MppRouter.X402
