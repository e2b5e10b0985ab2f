import MppRouter.X402.SettlementTruth

/-! # The stages of a settlement

Without any condition on markers and deadlines, envelopes are submitted only by the runner of the attempts, before the
deadline, and once they are in the trace. Each stage of a thread knows what it has seen of them, and a result says of
the chain what stays so whatever the attempts still do.
-/

namespace MppRouter.X402

open Concurrent Function List Option Prod

/-! ## What is so of a result -/

/-- Nothing of the order will be submitted any more. -/
def World.Stopped (world : World) (orderId : ℕ) : Prop :=
  world.settlements orderId = .refused ∨ ∃ trace, world.settlements orderId = .traced trace ∧
    (trace.abandoned = true ∨ trace.result.isSome = true)

/-- A result says what is so of the order's envelopes. -/
structure World.Bounded (world : World) (orderId : ℕ) (result : StellarX402SettleResult) : Prop where
  settled : result.outcome = .settled → world.Settles orderId result.transaction
  failed : result.outcome = .failed → ∀ hash, world.SignedFor orderId hash → world.Submitted hash →
    world.statusOf hash = .failed
  listed : ∀ hash, world.SignedFor orderId hash → world.Submitted hash → hash ∈ result.attemptedTxs
  stopped : world.Stopped orderId

/-- Envelopes are submitted only once they are in the trace, and the traces say what is so. -/
structure Accounts (world : World) : Prop where
  submitted : ∀ hash envelope, world.envelopes hash = some envelope → envelope.submitted = true →
    ∃ trace, world.settlements envelope.orderId = .traced trace ∧ hash ∈ trace.hashes
  applied : ∀ hash envelope, world.envelopes hash = some envelope → envelope.status ≠ .notFound →
    envelope.submitted = true
  traces : ∀ orderId trace, world.settlements orderId = .traced trace → world.Traced orderId trace

theorem Accounts.start : Accounts .start where
  submitted _ _ stands := absurd stands.symm (some_ne_none _)
  applied _ _ stands := absurd stands.symm (some_ne_none _)
  traces _ _ traced := by cases traced

/-- What one step of a thread leaves of envelopes and traces. -/
structure Advances (tid : ℕ) (world after : World) : Prop where
  grows : world.Grows after
  waits : ∀ orderId, orderId ≠ tid → world.settlements orderId = .waiting → after.settlements orderId = .waiting
  refused : ∀ orderId, world.settlements orderId = .refused → after.settlements orderId = .refused
  traced : ∀ orderId old, world.settlements orderId = .traced old → ∃ new, after.settlements orderId = .traced new ∧
    old.Grows new ∧ ∀ runner, runner ≠ tid → old.Runs runner → new.Runs runner
  /-- Only the runner submits, before the deadline, and only what it noted. -/
  submitted : ∀ hash new, after.envelopes hash = some new → new.submitted = true →
    (∃ old, world.envelopes hash = some old ∧ old.submitted = true) ∨
      ∃ trace, world.settlements new.orderId = .traced trace ∧ trace.Runs tid ∧ hash ∈ trace.hashes ∧
        trace.abandoned = false

def outcomeProtocol : Protocol settlementMachine := ⟨Accounts, Advances⟩

section Advances

variable {tid orderId : ℕ} {world after : World}

variable {hash : Hash}

theorem World.SignedFor.submitted (signed : world.SignedFor orderId hash) (was : world.Submitted hash) :
    ∃ envelope, world.envelopes hash = some envelope ∧ envelope.orderId = orderId ∧ envelope.submitted = true := by
  obtain ⟨envelope, stands, order⟩ := signed
  obtain ⟨envelope', stands', was⟩ := was
  obtain rfl : envelope = envelope' := some.inj (stands.symm.trans stands')
  exact ⟨envelope, stands, order, was⟩

theorem Accounts.listed (accounts : Accounts world) (signed : world.SignedFor orderId hash)
    (was : world.Submitted hash) : ∃ trace, world.settlements orderId = .traced trace ∧ hash ∈ trace.hashes := by
  obtain ⟨envelope, stands, rfl, was⟩ := signed.submitted was
  exact accounts.submitted hash envelope stands was

theorem Advances.of_same (settlements : after.settlements = world.settlements)
    (envelopes : after.envelopes = world.envelopes) : Advances tid world after where
  grows hash old stands := ⟨old, by rw [envelopes, stands], .refl old⟩
  waits _ _ waits := by rw [settlements, waits]
  refused _ refused := by rw [settlements, refused]
  traced _ old traced := ⟨old, by rw [settlements, traced], .refl old, fun _ _ runs => runs⟩
  submitted hash new stands was := .inl ⟨new, by rw [← envelopes, stands], was⟩

theorem Advances.of_trace {old new : SettleTrace} (stood : world.settlements orderId = .traced old)
    (grows : old.Grows new) (others : ∀ runner, runner ≠ tid → old.Runs runner → new.Runs runner) :
    Advances tid world (world.setTrace orderId new) := by
  have elsewhere : ∀ {other : ℕ} {settlement : Settlement}, world.settlements other = settlement →
      (∀ trace, settlement ≠ .traced trace) → (world.setTrace orderId new).settlements other = settlement := by
    intro other settlement stands apart
    have distinct : other ≠ orderId := by
      rintro rfl
      exact apart old (stands.symm.trans stood)
    exact (world.setTrace_other distinct new).trans stands
  constructor
  · exact fun hash envelope stands => ⟨envelope, stands, .refl envelope⟩
  · exact fun other _ waits => elsewhere waits nofun
  · exact fun other refused => elsewhere refused nofun
  · intro other trace traced
    by_cases same : other = orderId
    · subst same
      obtain rfl : old = trace := Settlement.traced.inj (stood.symm.trans traced)
      exact ⟨new, world.setTrace_same .., grows, others⟩
    · exact ⟨trace, (world.setTrace_other same new).trans traced, .refl trace, fun _ _ runs => runs⟩
  · exact fun hash envelope stands was => .inl ⟨envelope, stands, was⟩

/-- A settlement begins, with a trace or refused. -/
theorem Advances.of_start (waits : world.settlements tid = .waiting) (begun : Settlement) :
    Advances tid world { world with settlements := update world.settlements tid begun } := by
  have elsewhere : ∀ {other : ℕ} {settlement : Settlement}, world.settlements other = settlement →
      settlement ≠ .waiting → update world.settlements tid begun other = settlement := by
    intro other settlement stands apart
    have distinct : other ≠ tid := by
      rintro rfl
      exact apart (stands.symm.trans waits)
    exact (update_of_ne distinct ..).trans stands
  constructor
  · exact fun hash envelope stands => ⟨envelope, stands, .refl envelope⟩
  · exact fun other distinct waits => (update_of_ne distinct ..).trans waits
  · exact fun other refused => elsewhere refused nofun
  · exact fun other trace traced => ⟨trace, elsewhere traced nofun, .refl trace, fun _ _ runs => runs⟩
  · exact fun hash envelope stands was => .inl ⟨envelope, stands, was⟩

theorem Advances.of_envelope {new : Envelope} (grows : ∀ old, world.envelopes hash = some old → old.Grows new)
    (submitted : new.submitted = true → (∃ old, world.envelopes hash = some old ∧ old.submitted = true) ∨
      ∃ trace, world.settlements new.orderId = .traced trace ∧ trace.Runs tid ∧ hash ∈ trace.hashes ∧
        trace.abandoned = false) : Advances tid world (world.setEnvelope hash new) := by
  constructor
  · intro other old stands
    by_cases same : other = hash
    · subst same
      exact ⟨new, world.setEnvelope_same .., grows old stands⟩
    · exact ⟨old, (world.setEnvelope_other same new).trans stands, .refl old⟩
  · exact fun other _ waits => waits
  · exact fun other refused => refused
  · exact fun other trace traced => ⟨trace, traced, .refl trace, fun _ _ runs => runs⟩
  · intro other envelope stands was
    by_cases same : other = hash
    · subst same
      obtain rfl : new = envelope := some.inj ((world.setEnvelope_same ..).symm.trans stands)
      exact submitted was
    · exact .inl ⟨envelope, (world.setEnvelope_other same new).symm.trans stands, was⟩

/-- The accounts are kept where each envelope and trace is new and in order, or stood before. -/
theorem Advances.accounts (advances : Advances tid world after) (accounts : Accounts world)
    (applied : ∀ hash envelope, after.envelopes hash = some envelope → envelope.status ≠ .notFound →
      world.envelopes hash = some envelope ∨ envelope.submitted = true)
    (traces : ∀ orderId trace, after.settlements orderId = .traced trace →
      world.settlements orderId = .traced trace ∨ world.Traced orderId trace) : Accounts after := by
  constructor
  · intro hash envelope stands was
    have noted : ∃ trace, world.settlements envelope.orderId = .traced trace ∧ hash ∈ trace.hashes := by
      rcases advances.submitted hash envelope stands was with ⟨old, stood, before⟩ | ⟨trace, traced, -, listed, -⟩
      · obtain ⟨new, standing, grows⟩ := advances.grows hash old stood
        obtain rfl : new = envelope := some.inj (standing.symm.trans stands)
        rw [grows.order]
        exact accounts.submitted hash old stood before
      · exact ⟨trace, traced, listed⟩
    obtain ⟨trace, traced, listed⟩ := noted
    obtain ⟨new, standing, grows, -⟩ := advances.traced _ trace traced
    exact ⟨new, standing, grows.hashes hash listed⟩
  · intro hash envelope stands known
    rcases applied hash envelope stands known with stood | was
    · exact accounts.applied hash envelope stood known
    · exact was
  · intro orderId trace traced
    apply advances.grows.traced
    rcases traces orderId trace traced with stood | truly
    · exact accounts.traces orderId trace stood
    · exact truly

theorem Advances.stopped (advances : Advances tid world after) (stopped : world.Stopped orderId) :
    after.Stopped orderId := by
  rcases stopped with refused | ⟨old, stood, ends⟩
  · exact .inl (advances.refused orderId refused)
  · obtain ⟨new, traced, grows, -⟩ := advances.traced orderId old stood
    refine .inr ⟨new, traced, ?_⟩
    rcases ends with abandoned | finished
    · exact .inl (grows.abandoned abandoned)
    · right
      rw [(grows.finished finished).2.1]
      exact finished

/-- A stopped order submits nothing more. -/
theorem Advances.submitted_before (advances : Advances tid world after) (stopped : world.Stopped orderId)
    (signed : after.SignedFor orderId hash) (was : after.Submitted hash) :
    world.SignedFor orderId hash ∧ world.Submitted hash := by
  obtain ⟨envelope, stands, rfl, was⟩ := signed.submitted was
  rcases advances.submitted hash envelope stands was with ⟨old, stood, before⟩ | ⟨trace, traced, runs, -, underway⟩
  · obtain ⟨new, standing, grows⟩ := advances.grows hash old stood
    obtain rfl : new = envelope := some.inj (standing.symm.trans stands)
    exact ⟨⟨old, stood, grows.order.symm⟩, ⟨old, stood, before⟩⟩
  · exfalso
    rcases stopped with refused | ⟨trace', stood, ends⟩
    · cases refused.symm.trans traced
    · obtain rfl : trace' = trace := Settlement.traced.inj (stood.symm.trans traced)
      rcases ends with abandoned | finished
      · exact absurd (underway.symm.trans abandoned) (by decide)
      · exact runs.open finished

variable {result : StellarX402SettleResult}

/-- Whatever happens behind a result leaves it true. -/
theorem Advances.bounded (advances : Advances tid world after)
    (bounded : world.Bounded orderId result) : after.Bounded orderId result := by
  constructor
  · exact fun settled => advances.grows.settles (bounded.settled settled)
  · intro failed hash signed was
    obtain ⟨signed, was⟩ := advances.submitted_before bounded.stopped signed was
    exact advances.grows.failed (bounded.failed failed hash signed was)
  · intro hash signed was
    obtain ⟨signed, was⟩ := advances.submitted_before bounded.stopped signed was
    exact bounded.listed hash signed was
  · exact advances.stopped bounded.stopped

theorem World.Bounded.lasts
    (moved : Relation.ReflTransGen (fun world next => ∃ tid, Advances tid world next) world after)
    (bounded : world.Bounded orderId result) : after.Bounded orderId result := by
  induction moved with
  | refl => exact bounded
  | tail _ step ih =>
    obtain ⟨mover, advances⟩ := step
    exact advances.bounded ih

/-- What a result leaves out of the chain is out of it. -/
theorem World.Bounded.not_onChain (accounts : Accounts world)
    (bounded : world.Bounded orderId result) (failed : result.outcome = .failed)
    (signed : world.SignedFor orderId hash) : ¬world.OnChain hash := by
  rintro ⟨envelope, stands, success⟩
  have known : envelope.status ≠ .notFound := by
    rw [success]
    decide
  have rejected := bounded.failed failed hash signed ⟨envelope, stands, accounts.applied hash envelope stands known⟩
  rw [World.statusOf, stands, elim_some, success] at rejected
  cases rejected

/-- The verdict on the first of the attempts' end and the deadline is so. -/
theorem verdict_bounded (accounts : Accounts world) {result : Option SettleAttemptResult} {trace : SettleTrace}
    (traced : world.settlements orderId = .traced trace) (ended : ∀ found, result = some found → trace.result = some found)
    (abandoned : result = none → trace.abandoned = true) : world.Bounded orderId (verdict result trace) := by
  have truly := accounts.traces orderId trace traced
  have listed : ∀ hash, world.SignedFor orderId hash → world.Submitted hash → hash ∈ trace.hashes := by
    intro hash signed was
    obtain ⟨trace', stood, listed⟩ := accounts.listed signed was
    obtain rfl : trace' = trace := Settlement.traced.inj (stood.symm.trans traced)
    exact listed
  have stopped : world.Stopped orderId := by
    refine .inr ⟨trace, traced, ?_⟩
    cases result with
    | none => exact .inl (abandoned rfl)
    | some found =>
      right
      rw [ended found rfl]
      rfl
  unfold verdict
  split
  · rename_i success
    obtain ⟨found, same, success⟩ := (Option.any_eq_true ..).mp success
    subst same
    exact ⟨fun _ => truly.settled found (ended found rfl) success, nofun, listed, stopped⟩
  · dsimp only
    refine ⟨fun settled => ?_, fun failed hash signed was => ?_, listed, stopped⟩
    · dsimp only at settled
      split at settled <;> cases settled
    · dsimp only at failed
      split at failed
      · rename_i definitely
        simp only [Bool.and_eq_true, Bool.or_eq_true, List.isEmpty_iff, beq_iff_eq] at definitely
        have member := listed hash signed was
        rcases definitely.2 with empty | ⟨failedOnChain, one⟩
        · rw [empty] at member
          cases member
        · obtain ⟨other, among, rejected⟩ := truly.failed failedOnChain
          obtain ⟨only, same⟩ := length_eq_one_iff.mp one
          rw [same] at member among
          rw [mem_singleton.mp member, ← mem_singleton.mp among]
          exact rejected
      · cases failed

end Advances

/-! ## Where a thread stands -/

/-- What the runner of an order's attempts has seen. -/
structure Seen where
  orderId : ℕ
  /-- Signed, and not in the trace yet. -/
  signed : Option Hash := none
  noted : List Hash := []
  succeeded : List Hash := []
  rejected : List Hash := []

inductive Stage where
  | aside
  | opening
  | opened (orderId : ℕ)
  | racing (orderId : ℕ)
  | raced (orderId : ℕ) (result : Option SettleAttemptResult)
  | concluded (orderId : ℕ) (result : StellarX402SettleResult)
  | waiting (orderId : ℕ)
  | running (seen : Seen)

namespace Stage

/-- The row of a result is recorded once there is one. -/
def records : Stage → OrderLedgerEntry → Prop
  | .aside, _ => True
  | .opened _, entry => entry.settlementStatus = .pending
  | .concluded orderId result, entry => entry = applyResult { orderId := orderId } result
  | _, _ => False

def allowed (stage : Stage) : Action → Prop
  | .openOrder => stage = .opening
  | .recordOrder entry => stage.records entry
  | .startSettlement orderId => stage = .opened orderId
  | .race orderId => stage = .racing orderId
  | .conclude orderId timedOut => ∃ result, stage = .raced orderId result ∧ timedOut = result.isNone
  | .begin orderId => stage = .waiting orderId
  | .sign orderId | .noteAccepted orderId => ∃ seen, stage = .running seen ∧ seen.orderId = orderId
  | .pushHash orderId hash => ∃ seen, stage = .running seen ∧ seen.orderId = orderId ∧ seen.signed = some hash
  | .sendTransaction orderId hash => ∃ seen, stage = .running seen ∧ seen.orderId = orderId ∧ hash ∈ seen.noted
  | .noteFailed orderId => ∃ seen, stage = .running seen ∧ seen.orderId = orderId ∧
      ∃ hash ∈ seen.noted, hash ∈ seen.rejected
  | .finish orderId result => ∃ seen, stage = .running seen ∧ seen.orderId = orderId ∧
      (result.success = true → ∃ hash ∈ seen.noted, hash ∈ seen.succeeded ∧ result.transaction = some hash)
  | _ => True

def result : Stage → Option SettleAttemptResult
  | .raced _ result => result
  | _ => none

def see (change : Seen → Seen) : Stage → Stage
  | .running seen => .running (change seen)
  | stage => stage

def next (stage : Stage) : (action : Action) → action.Answer → Stage
  | .openOrder, (orderId, _) => .opened orderId
  | .startSettlement orderId, true => .racing orderId
  | .startSettlement orderId, false => .concluded orderId
      { success := false, outcome := .failed, errorReason := some "facilitator_init_failed", attemptedTxs := [] }
  | .race orderId, result => .raced orderId result
  | .conclude orderId _, trace => .concluded orderId (verdict stage.result trace)
  | .begin orderId, _ => .running { orderId := orderId }
  | .sign _, .signed hash => stage.see fun seen => { seen with signed := some hash }
  | .pushHash _ hash, _ => stage.see fun seen => { seen with signed := none, noted := hash :: seen.noted }
  | .getTransaction hash, some .success => stage.see fun seen => { seen with succeeded := hash :: seen.succeeded }
  | .getTransaction hash, some .failed => stage.see fun seen => { seen with rejected := hash :: seen.rejected }
  | .finish _ _, _ => .aside
  | _, _ => stage

end Stage

def stageFlow : Typestate settlementMachine := ⟨Stage, Stage.allowed, Stage.next⟩

/-- What the runner has seen is so. -/
structure World.Saw (world : World) (tid : ℕ) (seen : Seen) : Prop where
  runs : ∃ trace, world.settlements seen.orderId = .traced trace ∧ trace.Runs tid ∧
    ∀ hash ∈ seen.noted, hash ∈ trace.hashes
  signed : ∀ hash, seen.signed = some hash → world.SignedFor seen.orderId hash
  succeeded : ∀ hash ∈ seen.succeeded, world.OnChain hash
  rejected : ∀ hash ∈ seen.rejected, world.statusOf hash = .failed

/-- What a thread knows of the world. Its number is that of the order its request opens. -/
def Stage.Knows (parties : ℕ → Party) (tid : ℕ) : Stage → World → Prop
  | .aside, _ | .waiting _, _ => parties tid ≠ .request
  | .opening, world => world.settlements tid = .waiting
  | .opened orderId, world => orderId = tid ∧ world.settlements tid = .waiting
  | .racing orderId, world => orderId = tid ∧ ∃ trace, world.settlements tid = .traced trace
  | .raced orderId result, world => orderId = tid ∧ ∃ trace, world.settlements tid = .traced trace ∧
      ∀ found, result = some found → trace.result = some found
  | .concluded orderId result, world => orderId = tid ∧ world.Bounded tid result
  | .running seen, world => parties tid ≠ .request ∧ world.Saw tid seen

section Knows

variable {parties : ℕ → Party} {tid other : ℕ} {world after : World} {stage : Stage}

variable {seen : Seen}

theorem Advances.saw (advances : Advances other world after) (distinct : other ≠ tid)
    (saw : world.Saw tid seen) : after.Saw tid seen := by
  constructor
  · obtain ⟨old, stood, runs, noted⟩ := saw.runs
    obtain ⟨new, traced, grows, others⟩ := advances.traced _ old stood
    exact ⟨new, traced, others tid (Ne.symm distinct) runs, fun hash member => grows.hashes hash (noted hash member)⟩
  · exact fun hash signed => advances.grows.signedFor (saw.signed hash signed)
  · exact fun hash member => advances.grows.onChain (saw.succeeded hash member)
  · exact fun hash member => advances.grows.failed (saw.rejected hash member)

/-- Other threads leave what a thread knows. -/
theorem Stage.stable (stage : Stage) : outcomeProtocol.Stable tid (stage.Knows parties tid) := by
  intro other world after distinct _ _ advances knows
  cases stage with
  | aside | waiting _ => exact knows
  | opening => exact advances.waits tid (Ne.symm distinct) knows
  | opened orderId => exact ⟨knows.1, advances.waits tid (Ne.symm distinct) knows.2⟩
  | racing orderId =>
    obtain ⟨own, old, stood⟩ := knows
    obtain ⟨new, traced, -⟩ := advances.traced tid old stood
    exact ⟨own, new, traced⟩
  | raced orderId result =>
    obtain ⟨own, old, stood, ended⟩ := knows
    obtain ⟨new, traced, grows, -⟩ := advances.traced tid old stood
    refine ⟨own, new, traced, fun found same => ?_⟩
    have finished : old.result.isSome = true := by
      rw [ended found same]
      rfl
    exact (grows.finished finished).2.1.trans (ended found same)
  | concluded orderId result => exact ⟨knows.1, advances.bounded knows.2⟩
  | running seen => exact ⟨knows.1, advances.saw distinct knows.2⟩

/-- One step of a thread keeps the accounts, lets others keep what they know, and leads to what the next stage
knows. -/
def Moved (parties : ℕ → Party) (tid : ℕ) (world after : World) (stage : Stage) : Prop :=
  Accounts after ∧ Advances tid world after ∧ stage.Knows parties tid after

/-- A step that no envelope and no settlement notices. -/
theorem Accounts.still (accounts : Accounts world) (knows : stage.Knows parties tid world)
    (settlements : after.settlements = world.settlements) (envelopes : after.envelopes = world.envelopes) :
    Moved parties tid world after stage := by
  have advances : ∀ tid, Advances tid world after := fun _ => .of_same settlements envelopes
  have kept : Accounts after := by
    apply (advances tid).accounts accounts
    · intro hash envelope stands _
      rw [envelopes] at stands
      exact .inl stands
    · intro orderId trace traced
      rw [settlements] at traced
      exact .inl traced
  refine ⟨kept, advances tid, ?_⟩
  exact stage.stable (tid + 1) world after (by omega) accounts kept (advances (tid + 1)) knows

/-- What a thread does besides settling. -/
def Action.aside : Action → Bool
  | .recordOrder _ | .putMarker _ _ | .deleteMarker _ | .tick _ => true
  | .race _ => false
  | action => action.reads

/-- Settlements and envelopes are nothing to what is done besides. -/
theorem aside_same {action : Action} (aside : action.aside = true) {choice : Choice} {answer : action.Answer}
    (performed : perform tid action choice world = some (answer, after)) :
    after.settlements = world.settlements ∧ after.envelopes = world.envelopes := by
  cases action with
  | recordOrder entry =>
    obtain ⟨-, rfl⟩ := mk.inj (some.inj performed)
    cases choice.fault <;> exact ⟨rfl, rfl⟩
  | putMarker | deleteMarker =>
    rcases Fault.apply_cases (some.inj performed) with ⟨-, rfl⟩ | ⟨rfl, -⟩ <;> exact ⟨rfl, rfl⟩
  | tick elapsed =>
    obtain ⟨-, rfl⟩ := mk.inj (some.inj performed)
    exact ⟨rfl, rfl⟩
  | readTrace | getFacilitator | request | getTransaction | now | sleepUntil | listMarkers | getMarker =>
    obtain rfl := reads_still (by exact aside) performed
    exact ⟨rfl, rfl⟩
  | _ => cases aside

variable {orderId : ℕ}

theorem Accounts.noted (accounts : Accounts world) (tid : ℕ) {old new : SettleTrace}
    (stood : world.settlements orderId = .traced old) (grows : old.Grows new)
    (others : ∀ runner, runner ≠ tid → old.Runs runner → new.Runs runner) (truly : world.Traced orderId new) :
    Accounts (world.setTrace orderId new) ∧ Advances tid world (world.setTrace orderId new) := by
  have advances := Advances.of_trace stood grows others
  refine ⟨advances.accounts accounts (fun _ _ stands _ => .inl stands) ?_, advances⟩
  intro other trace traced
  by_cases same : other = orderId
  · subst same
    obtain rfl : new = trace := Settlement.traced.inj ((world.setTrace_same ..).symm.trans traced)
    exact .inr truly
  · exact .inl ((world.setTrace_other same new).symm.trans traced)

/-- A note that leaves the envelopes, the runner and the result of a trace alone. -/
theorem Accounts.remarked (accounts : Accounts world) (tid : ℕ) {old new : SettleTrace}
    (stood : world.settlements orderId = .traced old) (hashes : new.hashes = old.hashes) (runner : new.runner = old.runner)
    (result : new.result = old.result) (failed : new.failedOnChain = old.failedOnChain)
    (abandoned : old.abandoned = true → new.abandoned = true) :
    Accounts (world.setTrace orderId new) ∧ Advances tid world (world.setTrace orderId new) := by
  have truly := accounts.traces orderId old stood
  apply accounts.noted tid stood
  · exact ⟨fun hash member => hashes ▸ member, abandoned, fun _ => ⟨hashes, result, failed⟩⟩
  · exact fun _ _ runs => ⟨runner.trans runs.1, result.trans runs.2⟩
  · constructor
    · rw [runner, hashes, result]
      exact truly.fresh
    · rw [hashes]
      exact truly.own
    · rw [failed, hashes]
      exact truly.failed
    · rw [result]
      exact truly.settled

variable {hash : Hash}

/-- A step on an envelope. -/
theorem Accounts.stamped (accounts : Accounts world) {new : Envelope}
    (advances : Advances tid world (world.setEnvelope hash new))
    (applied : new.status ≠ .notFound → new.submitted = true) : Accounts (world.setEnvelope hash new) := by
  refine advances.accounts accounts ?_ fun _ _ traced => .inl traced
  intro other envelope stands known
  by_cases same : other = hash
  · subst same
    obtain rfl : new = envelope := some.inj ((world.setEnvelope_same ..).symm.trans stands)
    exact .inr (applied known)
  · exact .inl ((world.setEnvelope_other same new).symm.trans stands)

/-- What the runner saw of the chain stays so. -/
theorem World.Saw.stamped (saw : world.Saw tid seen) {new : Envelope}
    (grows : world.Grows (world.setEnvelope hash new)) : (world.setEnvelope hash new).Saw tid seen := by
  constructor
  · exact saw.runs
  · exact fun other signed => grows.signedFor (saw.signed other signed)
  · exact fun other member => grows.onChain (saw.succeeded other member)
  · exact fun other member => grows.failed (saw.rejected other member)

/-! ## The request's steps -/

theorem startSettlement_moved (accounts : Accounts world) (choice : Choice) {answer : Bool}
    (knows : (Stage.opened orderId).Knows parties tid world)
    (performed : perform tid (.startSettlement orderId) choice world = some (answer, after)) :
    Moved parties tid world after ((Stage.opened orderId).next (.startSettlement orderId) answer) := by
  obtain ⟨rfl, waits⟩ := knows
  have advances := Advances.of_start waits
  have nothing : ∀ hash, world.SignedFor orderId hash → ¬world.Submitted hash := by
    intro hash signed was
    obtain ⟨trace, traced, -⟩ := accounts.listed signed was
    cases waits.symm.trans traced
  obtain ⟨rfl, same⟩ := mk.inj (some.inj performed)
  cases flag : choice.flag with
  | true =>
    rw [flag, if_pos rfl] at same
    subst same
    refine ⟨(advances _).accounts accounts (fun _ _ stands _ => .inl stands) ?_, advances _, rfl, _, world.setTrace_same ..⟩
    intro other trace traced
    by_cases own : other = orderId
    · subst own
      cases (world.setTrace_same ..).symm.trans traced
      exact .inr ⟨fun _ => ⟨rfl, rfl⟩, nofun, nofun, nofun⟩
    · exact .inl ((world.setTrace_other own _).symm.trans traced)
  | false =>
    rw [flag, if_neg (by decide)] at same
    subst same
    refine ⟨(advances _).accounts accounts (fun _ _ stands _ => .inl stands) ?_, advances _, rfl, ?_⟩
    · intro other trace traced
      by_cases own : other = orderId
      · subst own
        cases (update_self ..).symm.trans traced
      · exact .inl ((update_of_ne own ..).symm.trans traced)
    · constructor
      · nofun
      · exact fun _ hash signed was => absurd was (nothing hash signed)
      · exact fun hash signed was => absurd was (nothing hash signed)
      · exact .inl (update_self ..)

theorem race_moved (accounts : Accounts world) (choice : Choice) {answer : Option SettleAttemptResult}
    (knows : (Stage.racing orderId).Knows parties tid world)
    (performed : perform tid (.race orderId) choice world = some (answer, after)) :
    Moved parties tid world after (.raced orderId answer) := by
  obtain rfl : after = world := reads_still (by exact rfl) performed
  apply Accounts.still accounts _ rfl rfl
  obtain ⟨rfl, trace, traced⟩ := knows
  refine ⟨rfl, trace, traced, fun found same => ?_⟩
  subst same
  simp only [perform, traced] at performed
  split at performed
  · obtain ⟨result, ended, same⟩ := map_eq_some_iff.mp performed
    cases same
    exact ended
  · split at performed <;> cases performed

theorem conclude_moved (accounts : Accounts world) {result : Option SettleAttemptResult} (choice : Choice)
    {answer : SettleTrace} (knows : (Stage.raced orderId result).Knows parties tid world)
    (performed : perform tid (.conclude orderId result.isNone) choice world = some (answer, after)) :
    Moved parties tid world after (.concluded orderId (verdict result answer)) := by
  obtain ⟨rfl, trace, traced, ended⟩ := knows
  simp only [perform, traced, some.injEq, mk.injEq] at performed
  obtain ⟨same, rfl⟩ := performed
  have answered : Accounts (world.setTrace orderId answer) ∧ Advances orderId world (world.setTrace orderId answer) := by
    subst same
    cases result with
    | none => exact accounts.remarked orderId traced rfl rfl rfl rfl fun _ => rfl
    | some found => exact accounts.remarked orderId traced rfl rfl rfl rfl id
  rw [same]
  refine ⟨answered.1, answered.2, rfl, ?_⟩
  subst same
  apply verdict_bounded answered.1 (world.setTrace_same ..)
  · intro found same
    subst same
    exact ended found rfl
  · intro none
    subst none
    rfl

/-! ## The steps of the attempts -/

theorem begin_moved (accounts : Accounts world) (choice : Choice) {answer : ℕ}
    (apart : parties tid ≠ .request) (performed : perform tid (.begin orderId) choice world = some (answer, after)) :
    Moved parties tid world after (.running { orderId := orderId }) := by
  simp only [perform] at performed
  split at performed
  case h_2 => cases performed
  rename_i trace startedAt traced started
  split at performed
  case isFalse => cases performed
  rename_i free
  obtain ⟨-, rfl⟩ := mk.inj (some.inj performed)
  have truly := accounts.traces orderId trace traced
  have begun : world.Traced orderId { trace with runner := some tid } := ⟨by rintro ⟨⟩, truly.own, truly.failed, truly.settled⟩
  have grows : trace.Grows { trace with runner := some tid } := ⟨fun _ member => member, id, fun _ => ⟨rfl, rfl, rfl⟩⟩
  obtain ⟨kept, advances⟩ := accounts.noted tid traced grows
    (fun _ _ runs => absurd (free.symm.trans runs.1) (by simp)) begun
  refine ⟨kept, advances, apart, ?_⟩
  constructor
  · exact ⟨_, world.setTrace_same .., ⟨rfl, (truly.fresh free).2⟩, by rintro _ ⟨⟩⟩
  · rintro _ ⟨⟩
  · rintro _ ⟨⟩
  · rintro _ ⟨⟩

theorem sign_moved (accounts : Accounts world) (choice : Choice) {answer : Signed}
    (knows : (Stage.running seen).Knows parties tid world)
    (performed : perform tid (.sign seen.orderId) choice world = some (answer, after)) :
    Moved parties tid world after ((Stage.running seen).next (.sign seen.orderId) answer) := by
  simp only [perform] at performed
  split at performed
  case h_2 notSigned =>
    obtain ⟨rfl, rfl⟩ := mk.inj (some.inj performed)
    cases same : choice.signed with
    | threw => exact accounts.still knows rfl rfl
    | error => exact accounts.still knows rfl rfl
    | signed hash => exact absurd same (notSigned hash)
  case h_1 hash _ =>
    obtain ⟨envelope, signs, same⟩ := map_eq_some_iff.mp performed
    obtain ⟨rfl, rfl⟩ := mk.inj same
    obtain ⟨order, -, stood⟩ := signEnvelope_spec signs
    have grows : ∀ old, world.envelopes hash = some old → old.Grows envelope := by
      intro old stands
      rcases stood with ⟨none, -⟩ | ⟨former, stood, of, submitted, status⟩
      · cases none.symm.trans stands
      · obtain rfl : former = old := some.inj (stood.symm.trans stands)
        exact ⟨order.trans of.symm, fun was => submitted.trans was, fun _ => status⟩
    have advances : Advances tid world (world.setEnvelope hash envelope) := by
      apply Advances.of_envelope grows
      intro was
      rcases stood with ⟨-, not, -⟩ | ⟨former, stood, -, submitted, -⟩
      · cases not.symm.trans was
      · exact .inl ⟨former, stood, submitted.symm.trans was⟩
    have kept : Accounts (world.setEnvelope hash envelope) := by
      apply accounts.stamped advances
      intro known
      rcases stood with ⟨-, -, status⟩ | ⟨former, stood, -, submitted, status⟩
      · exact absurd status known
      · rw [submitted]
        rw [status] at known
        exact accounts.applied hash former stood known
    obtain ⟨runs, -, succeeded, rejected⟩ := knows.2.stamped advances.grows
    refine ⟨kept, advances, knows.1, runs, fun other same => ?_, succeeded, rejected⟩
    cases same
    exact ⟨envelope, world.setEnvelope_same .., order⟩

theorem pushHash_moved (accounts : Accounts world) (signed : seen.signed = some hash)
    (choice : Choice) {answer : List Hash} (knows : (Stage.running seen).Knows parties tid world)
    (performed : perform tid (.pushHash seen.orderId hash) choice world = some (answer, after)) :
    Moved parties tid world after (.running { seen with signed := none, noted := hash :: seen.noted }) := by
  obtain ⟨apart, saw⟩ := knows
  obtain ⟨trace, traced, runs, noted⟩ := saw.runs
  simp only [perform, traced, some.injEq, mk.injEq] at performed
  obtain ⟨-, rfl⟩ := performed
  have truly := accounts.traces _ trace traced
  have pushed : world.Traced seen.orderId { trace with hashes := trace.hashes ++ [hash] } := by
    constructor
    · exact fun free => absurd (runs.1.symm.trans free) (by simp)
    · intro other member
      rcases mem_append.mp member with before | last
      · exact truly.own other before
      · rw [mem_singleton.mp last]
        exact saw.signed hash signed
    · intro failed
      obtain ⟨other, member, status⟩ := truly.failed failed
      exact ⟨other, mem_append_left _ member, status⟩
    · exact truly.settled
  have grows : trace.Grows { trace with hashes := trace.hashes ++ [hash] } :=
    ⟨fun _ member => mem_append_left _ member, id, fun ended => absurd ended runs.open⟩
  obtain ⟨kept, advances⟩ := accounts.noted tid traced grows (fun _ _ runs => runs) pushed
  refine ⟨kept, advances, apart, ?_, by rintro _ ⟨⟩, saw.succeeded, saw.rejected⟩
  refine ⟨_, world.setTrace_same .., runs, fun other member => ?_⟩
  rcases mem_cons.mp member with rfl | earlier
  · exact mem_append_right _ (mem_singleton_self _)
  · exact mem_append_left _ (noted other earlier)

theorem sendTransaction_moved (accounts : Accounts world) (had : hash ∈ seen.noted)
    (choice : Choice) {answer : Option SendStatus} (knows : (Stage.running seen).Knows parties tid world)
    (performed : perform tid (.sendTransaction seen.orderId hash) choice world = some (answer, after)) :
    Moved parties tid world after (.running seen) := by
  obtain ⟨apart, saw⟩ := knows
  obtain ⟨trace, traced, runs, noted⟩ := saw.runs
  have listed := noted hash had
  obtain ⟨envelope, stands, order⟩ := (accounts.traces _ trace traced).own hash listed
  simp only [perform, traced, stands] at performed
  split at performed
  · obtain ⟨-, rfl⟩ := mk.inj (some.inj performed)
    exact accounts.still ⟨apart, saw⟩ rfl rfl
  · rename_i underway
    obtain ⟨-, rfl⟩ := mk.inj (some.inj performed)
    have advances : Advances tid world (world.setEnvelope hash { envelope with submitted := true }) := by
      apply Advances.of_envelope
      · intro old stood
        cases stood.symm.trans stands
        exact ⟨rfl, fun _ => rfl, fun _ => rfl⟩
      · intro _
        rw [order]
        exact .inr ⟨trace, traced, runs, listed, Bool.eq_false_iff.mpr underway⟩
    exact ⟨accounts.stamped advances fun _ => rfl, advances, apart, saw.stamped advances.grows⟩

variable {answer : Unit}

theorem noteAccepted_moved (accounts : Accounts world) (choice : Choice)
    (knows : (Stage.running seen).Knows parties tid world)
    (performed : perform tid (.noteAccepted seen.orderId) choice world = some (answer, after)) :
    Moved parties tid world after (.running seen) := by
  obtain ⟨apart, saw⟩ := knows
  obtain ⟨trace, traced, runs, noted⟩ := saw.runs
  simp only [perform, traced, some.injEq, mk.injEq] at performed
  obtain ⟨-, rfl⟩ := performed
  obtain ⟨kept, advances⟩ : Accounts (world.setTrace seen.orderId { trace with accepted := true }) ∧ Advances tid world _ :=
    accounts.remarked tid traced rfl rfl rfl rfl id
  refine ⟨kept, advances, apart, ?_, saw.signed, saw.succeeded, saw.rejected⟩
  exact ⟨_, world.setTrace_same .., runs, noted⟩

theorem noteFailed_moved (accounts : Accounts world) (had : hash ∈ seen.noted)
    (rejected : hash ∈ seen.rejected) (choice : Choice)
    (knows : (Stage.running seen).Knows parties tid world)
    (performed : perform tid (.noteFailed seen.orderId) choice world = some (answer, after)) :
    Moved parties tid world after (.running seen) := by
  obtain ⟨apart, saw⟩ := knows
  obtain ⟨trace, traced, runs, noted⟩ := saw.runs
  simp only [perform, traced, some.injEq, mk.injEq] at performed
  obtain ⟨-, rfl⟩ := performed
  have truly := accounts.traces _ trace traced
  have failed : world.Traced seen.orderId { trace with failedOnChain := true } :=
    ⟨truly.fresh, truly.own, fun _ => ⟨hash, noted hash had, saw.rejected hash rejected⟩, truly.settled⟩
  have grows : trace.Grows { trace with failedOnChain := true } :=
    ⟨fun _ member => member, id, fun ended => absurd ended runs.open⟩
  obtain ⟨kept, advances⟩ := accounts.noted tid traced grows (fun _ _ runs => runs) failed
  refine ⟨kept, advances, apart, ?_, saw.signed, saw.succeeded, saw.rejected⟩
  exact ⟨_, world.setTrace_same .., runs, noted⟩

theorem finish_moved (accounts : Accounts world) {result : SettleAttemptResult}
    (proven : result.success = true → ∃ hash ∈ seen.noted, hash ∈ seen.succeeded ∧ result.transaction = some hash)
    (choice : Choice) (knows : (Stage.running seen).Knows parties tid world)
    (performed : perform tid (.finish seen.orderId result) choice world = some (answer, after)) :
    Moved parties tid world after .aside := by
  obtain ⟨apart, saw⟩ := knows
  obtain ⟨trace, traced, runs, noted⟩ := saw.runs
  simp only [perform, traced, some.injEq, mk.injEq] at performed
  obtain ⟨-, rfl⟩ := performed
  have truly := accounts.traces _ trace traced
  have ended : world.Traced seen.orderId { trace with result := some result } := by
    constructor
    · exact fun free => absurd (runs.1.symm.trans free) (by simp)
    · exact truly.own
    · exact truly.failed
    · intro found same success
      cases same
      obtain ⟨hash, had, succeeded, same⟩ := proven success
      exact ⟨hash, same, truly.own hash (noted hash had), saw.succeeded hash succeeded⟩
  have grows : trace.Grows { trace with result := some result } :=
    ⟨fun _ member => member, id, fun ended => absurd ended runs.open⟩
  obtain ⟨kept, advances⟩ := accounts.noted tid traced grows
    (fun _ distinct others => absurd (some.inj (others.1.symm.trans runs.1)) distinct) ended
  exact ⟨kept, advances, apart⟩

theorem getTransaction_moved (accounts : Accounts world) (choice : Choice) {answer : Option ChainStatus}
    (knows : stage.Knows parties tid world)
    (performed : perform tid (.getTransaction hash) choice world = some (answer, after)) :
    Moved parties tid world after (stage.next (.getTransaction hash) answer) := by
  obtain ⟨answered, same⟩ := mk.inj (some.inj performed)
  subst same
  refine Accounts.still accounts ?_ rfl rfl
  rcases answer with _ | _ | _ | _
  · exact knows
  · cases stage with
    | running seen =>
      obtain ⟨apart, saw⟩ := knows
      refine ⟨apart, saw.runs, saw.signed, fun other member => ?_, saw.rejected⟩
      rcases mem_cons.mp member with rfl | earlier
      · exact statusOf_success (Fault.answered_some answered)
      · exact saw.succeeded other earlier
    | _ => exact knows
  · cases stage with
    | running seen =>
      obtain ⟨apart, saw⟩ := knows
      refine ⟨apart, saw.runs, saw.signed, saw.succeeded, fun other member => ?_⟩
      rcases mem_cons.mp member with rfl | earlier
      · exact Fault.answered_some answered
      · exact saw.rejected other earlier
    | _ => exact knows
  · exact knows

/-! ## The chain's steps -/

theorem applyTransaction_moved (accounts : Accounts world) {successful : Bool} (choice : Choice)
    (knows : stage.Knows parties tid world)
    (performed : perform tid (.applyTransaction hash successful) choice world = some (answer, after)) :
    Moved parties tid world after stage := by
  obtain ⟨envelope, applied, same⟩ := map_eq_some_iff.mp performed
  obtain ⟨old, stands, applies⟩ := bind_eq_some_iff.mp applied
  obtain ⟨-, rfl⟩ := mk.inj same
  obtain ⟨was, open_, -, becomes⟩ := Envelope.applied_spec applies
  have order : envelope.orderId = old.orderId := by rw [becomes]
  have submitted : envelope.submitted = true := by rw [becomes, was]
  have advances : ∀ tid, Advances tid world (world.setEnvelope hash envelope) := by
    intro tid
    apply Advances.of_envelope
    · intro former stood
      obtain rfl : former = old := some.inj (stood.symm.trans stands)
      exact ⟨order, fun _ => submitted, fun settled => absurd open_ settled⟩
    · exact fun _ => .inl ⟨old, stands, was⟩
  have kept := accounts.stamped (advances tid) fun _ => submitted
  exact ⟨kept, advances tid, stage.stable (tid + 1) world _ (by omega) accounts kept (advances (tid + 1)) knows⟩

/-- Every step keeps the accounts, and leads to what the next stage knows. -/
theorem stageFlow_keeps (admits : settlementMachine.Admits) (parties : ℕ → Party) (tid : ℕ) :
    stageFlow.Keeps outcomeProtocol admits tid (Stage.Knows parties tid) := by
  refine ⟨Stage.stable, fun stage action allowed world accounts knows choice answer after _ performed => ?_⟩
  show Moved parties tid world after (stage.next action answer)
  replace performed : perform tid action choice world = some (answer, after) := performed
  cases action with
  | openOrder =>
    obtain rfl : stage = .opening := allowed
    simp only [perform] at performed
    split at performed
    · cases performed
    · obtain ⟨rfl, rfl⟩ := mk.inj (some.inj performed)
      have opened : (Stage.opened tid).Knows parties tid world := ⟨rfl, knows⟩
      exact accounts.still opened rfl rfl
  | startSettlement orderId =>
    obtain rfl : stage = .opened orderId := allowed
    exact startSettlement_moved accounts choice knows performed
  | race orderId =>
    obtain rfl : stage = .racing orderId := allowed
    exact race_moved accounts choice knows performed
  | conclude orderId timedOut =>
    obtain ⟨result, rfl, rfl⟩ := allowed
    exact conclude_moved accounts choice knows performed
  | begin orderId =>
    obtain rfl : stage = .waiting orderId := allowed
    exact begin_moved accounts choice knows performed
  | sign orderId =>
    obtain ⟨seen, rfl, rfl⟩ := allowed
    exact sign_moved accounts choice knows performed
  | noteAccepted orderId =>
    obtain ⟨seen, rfl, rfl⟩ := allowed
    exact noteAccepted_moved accounts choice knows performed
  | pushHash orderId hash =>
    obtain ⟨seen, rfl, rfl, signed⟩ := allowed
    exact pushHash_moved accounts signed choice knows performed
  | sendTransaction orderId hash =>
    obtain ⟨seen, rfl, rfl, had⟩ := allowed
    exact sendTransaction_moved accounts had choice knows performed
  | noteFailed orderId =>
    obtain ⟨seen, rfl, rfl, hash, had, rejected⟩ := allowed
    exact noteFailed_moved accounts had rejected choice knows performed
  | finish orderId result =>
    obtain ⟨seen, rfl, rfl, proven⟩ := allowed
    exact finish_moved accounts proven choice knows performed
  | getTransaction hash => exact getTransaction_moved accounts choice knows performed
  | applyTransaction hash successful => exact applyTransaction_moved accounts choice knows performed
  | _ =>
    obtain ⟨settlements, envelopes⟩ := aside_same rfl performed
    exact accounts.still knows settlements envelopes

end Knows

end MppRouter.X402
