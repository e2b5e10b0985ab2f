import MppRouter.X402.Settlement

/-! # What the parties of a settlement can do to the world

Each step is one of a few kinds of moves, with what the thread must know to make it. The books say how envelopes,
traces, markers and rows stand to each other: a marker that names an envelope names every submitted one, and a
row that says failed is about an order of which nothing can land any more.
-/

namespace MppRouter.X402

open Concurrent Function List Option

/-- The rows tell the truth about the chain. -/
def World.Truthful (world : World) : Prop :=
  ∀ row ∈ world.rows,
    (row.settlementStatus = .failed →
      ∀ hash, world.SignedFor row.orderId hash → world.Submitted hash → ¬world.OnChain hash) ∧
    (row.settlementStatus = .settled →
      ∃ hash, row.settlementRef = some hash ∧ world.SignedFor row.orderId hash ∧ world.OnChain hash)

/-! ## The condition -/

/-- The attempts of the settlement may still submit. -/
def Settlement.underway : Settlement → Bool
  | .traced trace => !trace.abandoned
  | _ => false

/-- The standing marker names no envelope, or all of these. -/
def World.Safe (world : World) (orderId : ℕ) (hashes : List Hash) : Prop :=
  ∀ marker ∈ world.markers orderId, marker.hashes = [] ∨ ∀ hash ∈ hashes, hash ∈ marker.hashes

instance (world : World) (orderId : ℕ) (hashes : List Hash) : Decidable (world.Safe orderId hashes) :=
  inferInstanceAs (Decidable (∀ marker ∈ world.markers orderId, _))

/-- An envelope signed now for the order expires before the resolver takes it for expired. -/
def World.Early (world : World) (orderId : ℕ) : Prop :=
  ∀ startedAt ∈ world.startedAt orderId, world.now + TX_TIME_BOUND_MS < startedAt + TX_EXPIRED_AFTER_MS

instance (world : World) (orderId : ℕ) : Decidable (world.Early orderId) :=
  inferInstanceAs (Decidable (∀ startedAt ∈ world.startedAt orderId, _))

/-- The second try of a marker write does not fail while the marker names some of the envelopes only, and
nothing is signed later than the resolver's margin allows. -/
def orderly : settlementMachine.Admits := fun _ action choice world =>
  match action with
  | .putMarker true marker =>
    choice.fault = .failed → (world.settlements marker.entry.orderId).underway = true →
      world.Safe marker.entry.orderId marker.hashes
  | .sign orderId => world.Early orderId
  | _ => True

instance (tid : ℕ) (action : Action) (choice : Choice) (world : World) :
    Decidable (orderly tid action choice world) := by
  unfold orderly
  split <;> infer_instance

/-! ## The moves -/

/-- The thread runs the attempts, and they are not over. -/
def SettleTrace.Runs (trace : SettleTrace) (tid : ℕ) : Prop := trace.runner = some tid ∧ trace.result = none

/-- An envelope of the order that the chain applied. -/
def World.Settles (world : World) (orderId : ℕ) (transaction : Option Hash) : Prop :=
  ∃ hash, transaction = some hash ∧ world.SignedFor orderId hash ∧ world.OnChain hash

/-- No attempt of the order will submit anything from now on. -/
def World.Over (world : World) (orderId : ℕ) : Prop :=
  world.settlements orderId = .refused ∨
    ∃ trace, world.settlements orderId = .traced trace ∧ trace.result.isSome = true

/-- Whatever was signed for the order has expired. -/
def World.Closed (world : World) (orderId : ℕ) : Prop :=
  ∃ startedAt, world.startedAt orderId = some startedAt ∧ startedAt + TX_EXPIRED_AFTER_MS ≤ world.now

/-- Whatever was signed for the order has expired, and only these envelopes may be on the chain. -/
def World.Spent (world : World) (orderId : ℕ) (except : List Hash) : Prop :=
  world.Closed orderId ∧ ∀ hash envelope, world.envelopes hash = some envelope → envelope.orderId = orderId →
    hash ∉ except → envelope.status ≠ .success

/-- Nothing of the order is on the chain, and nothing can land any more. -/
def World.Barren (world : World) (orderId : ℕ) : Prop :=
  (world.Over orderId ∧ ∀ hash envelope, world.envelopes hash = some envelope → envelope.orderId = orderId →
    envelope.submitted = true → envelope.status = .failed) ∨
  world.Spent orderId []

/-- A row may say what it says. -/
structure World.Grounded (world : World) (row : OrderLedgerEntry) : Prop where
  failed : row.settlementStatus = .failed → world.Barren row.orderId
  settled : row.settlementStatus = .settled → world.Settles row.orderId row.settlementRef

/-- The trace of the order no longer moves, or no longer matters. -/
inductive World.Ready (world : World) (tid orderId : ℕ) (hashes : List Hash) : Prop
  | waiting (waits : world.settlements orderId = .waiting) (none : hashes = [])
  | running {trace : SettleTrace} (traced : world.settlements orderId = .traced trace) (runs : trace.Runs tid)
      (all : hashes = trace.hashes)
  | abandoned {trace : SettleTrace} (traced : world.settlements orderId = .traced trace)
      (abandoned : trace.abandoned = true)
      (all : ∀ hash, world.SignedFor orderId hash → world.Submitted hash → hash ∈ hashes)
  | finished {trace : SettleTrace} (traced : world.settlements orderId = .traced trace)
      (finished : trace.result.isSome = true) (all : hashes = trace.hashes)

/-- A marker that a thread may write. -/
structure World.Markable (world : World) (tid : ℕ) (marker : OpenSettlement) : Prop where
  created : world.startedAt marker.entry.orderId = some marker.createdAt
  own : ∀ hash ∈ marker.hashes, world.SignedFor marker.entry.orderId hash
  ready : world.Ready tid marker.entry.orderId marker.hashes

/-- What a thread may make of the trace of an order. -/
inductive Notes (tid : ℕ) (world : World) (orderId : ℕ) : SettleTrace → Prop
  | made (deadlineMs : ℕ) (own : orderId = tid) (waits : world.settlements orderId = .waiting)
      (started : (world.startedAt orderId).isSome = true) : Notes tid world orderId { deadlineMs := deadlineMs }
  | abandoned {trace : SettleTrace} (traced : world.settlements orderId = .traced trace) :
      Notes tid world orderId { trace with abandoned := true }
  | begun {trace : SettleTrace} (traced : world.settlements orderId = .traced trace) (free : trace.runner = none) :
      Notes tid world orderId { trace with runner := some tid }
  | pushed {trace : SettleTrace} {hash : Hash} (traced : world.settlements orderId = .traced trace)
      (runs : trace.Runs tid) (own : world.SignedFor orderId hash) :
      Notes tid world orderId { trace with hashes := trace.hashes ++ [hash] }
  | accepted {trace : SettleTrace} (traced : world.settlements orderId = .traced trace) (runs : trace.Runs tid) :
      Notes tid world orderId { trace with accepted := true }
  | failed {trace : SettleTrace} {hash : Hash} (traced : world.settlements orderId = .traced trace)
      (runs : trace.Runs tid) (listed : hash ∈ trace.hashes) (failed : world.statusOf hash = .failed) :
      Notes tid world orderId { trace with failedOnChain := true }
  | finished {trace : SettleTrace} {result : SettleAttemptResult}
      (traced : world.settlements orderId = .traced trace) (runs : trace.Runs tid)
      (settles : result.success = true → world.Settles orderId result.transaction) :
      Notes tid world orderId { trace with result := some result }

/-- What a thread may make of an envelope. -/
inductive Stamps (tid : ℕ) (world : World) (hash : Hash) : Envelope → Prop
  | signed {orderId : ℕ} {trace : SettleTrace} {envelope : Envelope}
      (traced : world.settlements orderId = .traced trace) (runs : trace.Runs tid) (early : world.Early orderId)
      (signs : signEnvelope orderId world.now (world.envelopes hash) = some envelope) : Stamps tid world hash envelope
  | sent {envelope : Envelope} {trace : SettleTrace} (standing : world.envelopes hash = some envelope)
      (traced : world.settlements envelope.orderId = .traced trace) (runs : trace.Runs tid)
      (listed : hash ∈ trace.hashes) (underway : trace.abandoned = false)
      (safe : world.Safe envelope.orderId trace.hashes) : Stamps tid world hash { envelope with submitted := true }
  | applied {envelope after : Envelope} {successful : Bool} (standing : world.envelopes hash = some envelope)
      (applies : envelope.applied world.now successful = some after) : Stamps tid world hash after

/-- What one step of a thread can do. -/
inductive Moves (tid : ℕ) (world : World) : World → Prop
  | still : Moves tid world world
  | passed (elapsed : ℕ) : Moves tid world { world with now := world.now + elapsed }
  | opened (new : world.startedAt tid = none) :
      Moves tid world { world with startedAt := update world.startedAt tid (some world.now) }
  | recorded {entry : OrderLedgerEntry} (grounded : world.Grounded entry) :
      Moves tid world { world with rows := entry :: world.rows }
  | marked {marker : OpenSettlement} (markable : world.Markable tid marker) : Moves tid world (world.putMarker marker)
  | unmarked (orderId : ℕ) :
      Moves tid world { world with markers := update world.markers orderId none }
  | refused (waits : world.settlements tid = .waiting) (started : (world.startedAt tid).isSome = true) :
      Moves tid world { world with settlements := update world.settlements tid .refused }
  | noted {orderId : ℕ} {trace : SettleTrace} (notes : Notes tid world orderId trace) :
      Moves tid world (world.setTrace orderId trace)
  | stamped {hash : Hash} {envelope : Envelope} (stamps : Stamps tid world hash envelope) :
      Moves tid world (world.setEnvelope hash envelope)

/-! ## The books -/

/-- An envelope belongs to a running settlement, was signed early enough, and is noted before it is submitted. -/
structure World.Kept (world : World) (hash : Hash) (envelope : Envelope) : Prop where
  traced : ∃ trace, world.settlements envelope.orderId = .traced trace ∧
    (envelope.submitted = true → hash ∈ trace.hashes)
  early : ∃ startedAt, world.startedAt envelope.orderId = some startedAt ∧
    envelope.signedAt + TX_TIME_BOUND_MS < startedAt + TX_EXPIRED_AFTER_MS
  applied : envelope.status ≠ .notFound → envelope.submitted = true

/-- A trace names envelopes of its order, and says of them what is so. -/
structure World.Traced (world : World) (orderId : ℕ) (trace : SettleTrace) : Prop where
  fresh : trace.runner = none → trace.hashes = [] ∧ trace.result = none
  own : ∀ hash ∈ trace.hashes, world.SignedFor orderId hash
  failed : trace.failedOnChain = true → ∃ hash ∈ trace.hashes, world.statusOf hash = .failed
  settled : ∀ result, trace.result = some result → result.success = true → world.Settles orderId result.transaction

/-- A marker that names any envelope names every submitted one. -/
structure World.Marked (world : World) (orderId : ℕ) (marker : OpenSettlement) : Prop where
  order : marker.entry.orderId = orderId
  created : world.startedAt orderId = some marker.createdAt
  own : ∀ hash ∈ marker.hashes, world.SignedFor orderId hash
  all : marker.hashes ≠ [] → ∀ hash, world.SignedFor orderId hash → world.Submitted hash → hash ∈ marker.hashes

structure Books (world : World) : Prop where
  started : ∀ orderId, world.settlements orderId ≠ .waiting → (world.startedAt orderId).isSome = true
  envelopes : ∀ hash envelope, world.envelopes hash = some envelope → world.Kept hash envelope
  traces : ∀ orderId trace, world.settlements orderId = .traced trace → world.Traced orderId trace
  markers : ∀ orderId marker, world.markers orderId = some marker → world.Marked orderId marker
  rows : ∀ row ∈ world.rows, world.Grounded row

theorem Books.start : Books .start where
  started _ began := absurd rfl began
  envelopes _ _ stands := absurd stands.symm (some_ne_none _)
  traces _ _ traced := by cases traced
  markers _ _ stands := absurd stands.symm (some_ne_none _)
  rows row member := absurd member not_mem_nil

/-! ## What lasts -/

section Lasting

variable {tid : ℕ} {world after : World}

/-- An envelope keeps its order, stays submitted, and its fate is settled once. -/
structure Envelope.Grows (old new : Envelope) : Prop where
  order : new.orderId = old.orderId
  submitted : old.submitted = true → new.submitted = true
  status : old.status ≠ .notFound → new.status = old.status

theorem Envelope.Grows.refl (envelope : Envelope) : envelope.Grows envelope := ⟨rfl, id, fun _ => rfl⟩

variable {orderId : ℕ} {envelope : Envelope}

/-- Signing leaves the fate of an envelope alone. -/
theorem signEnvelope_spec {now : ℕ} {standing : Option Envelope}
    (signs : signEnvelope orderId now standing = some envelope) :
    envelope.orderId = orderId ∧ envelope.signedAt = now ∧
      ((standing = none ∧ envelope.submitted = false ∧ envelope.status = .notFound) ∨
        ∃ old, standing = some old ∧ old.orderId = orderId ∧ envelope.submitted = old.submitted ∧
          envelope.status = old.status) := by
  cases standing with
  | none =>
    cases signs
    exact ⟨rfl, rfl, .inl ⟨rfl, rfl, rfl⟩⟩
  | some old =>
    simp only [signEnvelope] at signs
    split at signs
    · rename_i same
      cases signs
      exact ⟨same, rfl, .inr ⟨old, rfl, same, rfl, rfl⟩⟩
    · cases signs

theorem Envelope.applied_spec {now : ℕ} {successful : Bool} {after : Envelope}
    (applies : envelope.applied now successful = some after) :
    envelope.submitted = true ∧ envelope.status = .notFound ∧ now ≤ envelope.signedAt + TX_TIME_BOUND_MS ∧
      after = { envelope with status := if successful then .success else .failed } := by
  simp only [Envelope.applied] at applies
  split at applies
  · rename_i may
    exact ⟨may.1, may.2.1, may.2.2, (some.inj applies).symm⟩
  · cases applies

variable {hash : Hash}

theorem Stamps.grows {old new : Envelope} (stamps : Stamps tid world hash new)
    (standing : world.envelopes hash = some old) : old.Grows new := by
  cases stamps with
  | signed traced runs early signs =>
    obtain ⟨order, -, ⟨none, -⟩ | ⟨former, stood, of, submitted, status⟩⟩ := signEnvelope_spec signs
    · rw [none] at standing
      cases standing
    · obtain rfl : former = old := some.inj (stood.symm.trans standing)
      exact ⟨order.trans of.symm, fun was => submitted.trans was, fun _ => status⟩
  | sent stood =>
    cases stood.symm.trans standing
    exact ⟨rfl, fun _ => rfl, fun _ => rfl⟩
  | applied stood applies =>
    cases stood.symm.trans standing
    obtain ⟨-, open_, -, rfl⟩ := Envelope.applied_spec applies
    exact ⟨rfl, id, fun settled => absurd open_ settled⟩

/-- An envelope stood before, or was stamped. -/
theorem Moves.envelope_from (moves : Moves tid world after) (stands : after.envelopes hash = some envelope) :
    world.envelopes hash = some envelope ∨ Stamps tid world hash envelope := by
  cases moves with
  | @stamped stamped new stamps =>
    by_cases same : hash = stamped
    · subst same
      obtain rfl : new = envelope := some.inj ((world.setEnvelope_same ..).symm.trans stands)
      exact .inr stamps
    · exact .inl ((world.setEnvelope_other same _).symm.trans stands)
  | _ => exact .inl stands

variable {trace : SettleTrace}

/-- A trace stood before, or was noted. -/
theorem Moves.trace_from (moves : Moves tid world after) (traced : after.settlements orderId = .traced trace) :
    world.settlements orderId = .traced trace ∨ Notes tid world orderId trace := by
  cases moves with
  | refused waits =>
    by_cases same : orderId = tid
    · subst same
      cases (update_self ..).symm.trans traced
    · exact .inl ((update_of_ne same ..).symm.trans traced)
  | @noted noted new notes =>
    by_cases same : orderId = noted
    · subst same
      obtain rfl : new = trace := Settlement.traced.inj ((world.setTrace_same ..).symm.trans traced)
      exact .inr notes
    · exact .inl ((world.setTrace_other same _).symm.trans traced)
  | _ => exact .inl traced

variable {marker : OpenSettlement}

/-- A marker stood before, or was written under its order. -/
theorem Moves.marker_from (moves : Moves tid world after) (stands : after.markers orderId = some marker) :
    world.markers orderId = some marker ∨
      (marker.entry.orderId = orderId ∧ world.Markable tid marker ∧ after = world.putMarker marker) := by
  cases moves with
  | @marked written markable =>
    by_cases same : orderId = written.entry.orderId
    · subst same
      obtain rfl : written = marker := some.inj ((world.putMarker_same _).symm.trans stands)
      exact .inr ⟨rfl, markable, rfl⟩
    · exact .inl ((world.putMarker_other same).symm.trans stands)
  | unmarked removed =>
    by_cases same : orderId = removed
    · subst same
      cases (update_self ..).symm.trans stands
    · exact .inl ((update_of_ne same ..).symm.trans stands)
  | _ => exact .inl stands

/-- A row stood before, or was grounded. -/
theorem Moves.row_from (moves : Moves tid world after) {row : OrderLedgerEntry} (member : row ∈ after.rows) :
    row ∈ world.rows ∨ world.Grounded row := by
  cases moves with
  | recorded grounded =>
    rcases mem_cons.mp member with rfl | before
    · exact .inr grounded
    · exact .inl before
  | _ => exact .inl member

/-- No envelope is lost, and what is known of one stays so. -/
def World.Grows (world after : World) : Prop :=
  ∀ hash old, world.envelopes hash = some old → ∃ new, after.envelopes hash = some new ∧ old.Grows new

section Grown

variable (grows : world.Grows after)

include grows

theorem World.Grows.signedFor (signed : world.SignedFor orderId hash) : after.SignedFor orderId hash := by
  obtain ⟨old, stands, order⟩ := signed
  obtain ⟨new, standing, grown⟩ := grows hash old stands
  exact ⟨new, standing, grown.order.trans order⟩

theorem World.Grows.onChain (onto : world.OnChain hash) : after.OnChain hash := by
  obtain ⟨old, stands, success⟩ := onto
  obtain ⟨new, standing, grown⟩ := grows hash old stands
  refine ⟨new, standing, (grown.status ?_).trans success⟩
  rw [success]
  decide

theorem World.Grows.statusOf (settled : world.statusOf hash ≠ .notFound) :
    after.statusOf hash = world.statusOf hash := by
  cases stands : world.envelopes hash with
  | none => exact absurd (by simp only [World.statusOf, stands, elim_none]) settled
  | some old =>
    obtain ⟨new, standing, grown⟩ := grows hash old stands
    simp only [World.statusOf, stands, standing, elim_some] at settled ⊢
    exact grown.status settled

/-- A failure is final. -/
theorem World.Grows.failed (failed : world.statusOf hash = .failed) : after.statusOf hash = .failed := by
  refine (grows.statusOf ?_).trans failed
  rw [failed]
  decide

theorem World.Grows.settles {transaction : Option Hash}
    (settles : world.Settles orderId transaction) : after.Settles orderId transaction := by
  obtain ⟨hash, same, signed, onto⟩ := settles
  exact ⟨hash, same, grows.signedFor signed, grows.onChain onto⟩

theorem World.Grows.traced (traced : world.Traced orderId trace) : after.Traced orderId trace := by
  refine ⟨traced.fresh, fun hash member => grows.signedFor (traced.own hash member), ?_, ?_⟩
  · intro failed
    obtain ⟨hash, member, status⟩ := traced.failed failed
    exact ⟨hash, member, grows.failed status⟩
  · exact fun result ended success => grows.settles (traced.settled result ended success)

end Grown

section Moved

variable (moves : Moves tid world after)

include moves

theorem Moves.grows : world.Grows after := by
  intro hash old stands
  cases moves with
  | @stamped stamped new stamps =>
    by_cases same : hash = stamped
    · subst same
      exact ⟨new, world.setEnvelope_same .., stamps.grows stands⟩
    · exact ⟨old, (world.setEnvelope_other same _).trans stands, .refl old⟩
  | _ => exact ⟨old, stands, .refl old⟩

theorem Moves.signedFor (signed : world.SignedFor orderId hash) : after.SignedFor orderId hash :=
  moves.grows.signedFor signed

theorem Moves.statusOf (settled : world.statusOf hash ≠ .notFound) :
    after.statusOf hash = world.statusOf hash := moves.grows.statusOf settled

theorem Moves.settles {transaction : Option Hash}
    (settles : world.Settles orderId transaction) : after.Settles orderId transaction := moves.grows.settles settles

theorem Moves.startedAt {startedAt : ℕ}
    (started : world.startedAt orderId = some startedAt) : after.startedAt orderId = some startedAt := by
  cases moves with
  | opened new =>
    have other : orderId ≠ tid := by
      rintro rfl
      rw [new] at started
      cases started
    exact (update_of_ne other ..).trans started
  | _ => exact started

theorem Moves.now : world.now ≤ after.now := by
  cases moves with
  | passed elapsed => exact Nat.le_add_right ..
  | _ => exact Nat.le_refl _

theorem Moves.closed (closed : world.Closed orderId) : after.Closed orderId := by
  obtain ⟨startedAt, started, expired⟩ := closed
  exact ⟨startedAt, moves.startedAt started, Nat.le_trans expired moves.now⟩

end Moved

/-- A trace loses no envelope, stays abandoned, and stands still once its attempts are over. -/
structure SettleTrace.Grows (old new : SettleTrace) : Prop where
  hashes : ∀ hash ∈ old.hashes, hash ∈ new.hashes
  abandoned : old.abandoned = true → new.abandoned = true
  finished : old.result.isSome = true →
    new.hashes = old.hashes ∧ new.result = old.result ∧ new.failedOnChain = old.failedOnChain

theorem SettleTrace.Grows.refl (trace : SettleTrace) : trace.Grows trace :=
  ⟨fun _ member => member, id, fun _ => ⟨rfl, rfl, rfl⟩⟩

theorem SettleTrace.Runs.open (runs : trace.Runs tid) : ¬trace.result.isSome = true := by
  rw [runs.2]
  decide

theorem Notes.grows {old new : SettleTrace} (notes : Notes tid world orderId new)
    (traced : world.settlements orderId = .traced old) : old.Grows new := by
  cases notes with
  | made _ _ waits => cases waits.symm.trans traced
  | abandoned stood =>
    cases stood.symm.trans traced
    exact ⟨fun _ member => member, fun _ => rfl, fun _ => ⟨rfl, rfl, rfl⟩⟩
  | begun stood =>
    cases stood.symm.trans traced
    exact ⟨fun _ member => member, id, fun _ => ⟨rfl, rfl, rfl⟩⟩
  | pushed stood runs =>
    cases stood.symm.trans traced
    exact ⟨fun _ member => mem_append_left _ member, id, fun ended => absurd ended runs.open⟩
  | accepted stood runs =>
    cases stood.symm.trans traced
    exact ⟨fun _ member => member, id, fun ended => absurd ended runs.open⟩
  | failed stood runs =>
    cases stood.symm.trans traced
    exact ⟨fun _ member => member, id, fun ended => absurd ended runs.open⟩
  | finished stood runs =>
    cases stood.symm.trans traced
    exact ⟨fun _ member => member, id, fun ended => absurd ended runs.open⟩

theorem Moves.traced (moves : Moves tid world after) {old : SettleTrace}
    (traced : world.settlements orderId = .traced old) :
    ∃ new, after.settlements orderId = .traced new ∧ old.Grows new := by
  cases moves with
  | refused waits =>
    have other : orderId ≠ tid := by
      rintro rfl
      cases waits.symm.trans traced
    exact ⟨old, (update_of_ne other ..).trans traced, .refl old⟩
  | @noted noted new notes =>
    by_cases same : orderId = noted
    · subst same
      exact ⟨new, world.setTrace_same .., notes.grows traced⟩
    · exact ⟨old, (world.setTrace_other same _).trans traced, .refl old⟩
  | _ => exact ⟨old, traced, .refl old⟩

theorem Notes.not_refused (notes : Notes tid world orderId trace) : world.settlements orderId ≠ .refused := by
  intro refused
  cases notes with
  | made _ _ waits => cases waits.symm.trans refused
  | abandoned stood | begun stood | pushed stood | accepted stood | failed stood | finished stood =>
    cases stood.symm.trans refused

theorem Moves.overStays (moves : Moves tid world after) (ended : world.Over orderId) : after.Over orderId := by
  rcases ended with refused | ⟨old, traced, finished⟩
  · left
    cases moves with
    | @refused waits =>
      by_cases same : orderId = tid
      · subst same
        exact update_self ..
      · exact (update_of_ne same ..).trans refused
    | @noted noted trace notes =>
      have other : orderId ≠ noted := by
        rintro rfl
        exact notes.not_refused refused
      exact (world.setTrace_other other _).trans refused
    | _ => exact refused
  · right
    obtain ⟨new, standing, grows⟩ := moves.traced traced
    refine ⟨new, standing, ?_⟩
    rw [(grows.finished finished).2.1]
    exact finished

/-- Nobody runs attempts that are over. -/
theorem World.Over.not_runs (ended : world.Over orderId)
    (traced : world.settlements orderId = .traced trace) : ¬trace.Runs tid := by
  intro runs
  rcases ended with refused | ⟨old, stood, finished⟩
  · cases refused.symm.trans traced
  · cases stood.symm.trans traced
    exact runs.open finished

theorem World.Closed.not_early (closed : world.Closed orderId) : ¬world.Early orderId := by
  intro early
  obtain ⟨startedAt, started, expired⟩ := closed
  have intime : world.now + TX_TIME_BOUND_MS < startedAt + TX_EXPIRED_AFTER_MS := early startedAt started
  omega

/-- An expired order stays as it is. -/
theorem Moves.spent (books : Books world) (moves : Moves tid world after) {except : List Hash}
    (spent : world.Spent orderId except) : after.Spent orderId except := by
  obtain ⟨closed, lacks⟩ := spent
  refine ⟨moves.closed closed, fun hash envelope stands order outside => ?_⟩
  rcases moves.envelope_from stands with stood | stamps
  · exact lacks hash envelope stood order outside
  cases stamps with
  | signed traced runs early signs =>
    obtain ⟨rfl, -⟩ := signEnvelope_spec signs
    rw [order] at early
    exact absurd early closed.not_early
  | @sent old _ standing => exact lacks hash old standing order outside
  | @applied old _ _ standing applies =>
    obtain ⟨-, -, intime, rfl⟩ := Envelope.applied_spec applies
    obtain ⟨startedAt, started, early⟩ := (books.envelopes hash old standing).early
    obtain ⟨startedAt', started', expired⟩ := closed
    rw [show old.orderId = orderId from order, started'] at started
    cases started
    omega

/-- An order of which nothing can land stays so. -/
theorem Moves.barren (books : Books world) (moves : Moves tid world after)
    (barren : world.Barren orderId) : after.Barren orderId := by
  rcases barren with ⟨ended, fails⟩ | spent
  · left
    refine ⟨moves.overStays ended, fun hash envelope stands order submitted => ?_⟩
    rcases moves.envelope_from stands with stood | stamps
    · exact fails hash envelope stood order submitted
    cases stamps with
    | signed traced runs early signs =>
      obtain ⟨rfl, -⟩ := signEnvelope_spec signs
      rw [order] at traced
      exact absurd runs (ended.not_runs traced)
    | sent standing traced runs =>
      rw [show _ = orderId from order] at traced
      exact absurd runs (ended.not_runs traced)
    | @applied old _ _ standing applies =>
      obtain ⟨was, notFound, -, rfl⟩ := Envelope.applied_spec applies
      have failed := fails hash old standing order was
      rw [notFound] at failed
      cases failed
  · exact .inr (moves.spent books spent)

theorem Moves.grounded (books : Books world) (moves : Moves tid world after) {row : OrderLedgerEntry}
    (grounded : world.Grounded row) : after.Grounded row :=
  ⟨fun failed => moves.barren books (grounded.failed failed), fun settled => moves.settles (grounded.settled settled)⟩

/-- What is newly submitted for an order was noted, by attempts that are underway. -/
theorem Moves.submitted (moves : Moves tid world after) (signed : after.SignedFor orderId hash)
    (submitted : after.Submitted hash) :
    (world.SignedFor orderId hash ∧ world.Submitted hash) ∨
      ∃ trace, world.settlements orderId = .traced trace ∧ trace.Runs tid ∧ hash ∈ trace.hashes ∧
        trace.abandoned = false ∧ world.Safe orderId trace.hashes := by
  obtain ⟨envelope, stands, order⟩ := signed
  obtain ⟨envelope', stands', was⟩ := submitted
  obtain rfl : envelope = envelope' := some.inj (stands.symm.trans stands')
  rcases moves.envelope_from stands with stood | stamps
  · exact .inl ⟨⟨envelope, stood, order⟩, ⟨envelope, stood, was⟩⟩
  cases stamps with
  | signed traced runs early signs =>
    obtain ⟨of, -, ⟨-, not, -⟩ | ⟨old, stood, own, before, -⟩⟩ := signEnvelope_spec signs
    · rw [not] at was
      cases was
    · exact .inl ⟨⟨old, stood, own.trans (of.symm.trans order)⟩, ⟨old, stood, before.symm.trans was⟩⟩
  | @sent old trace standing traced runs listed underway safe =>
    obtain rfl : old.orderId = orderId := order
    exact .inr ⟨trace, traced, runs, listed, underway, safe⟩
  | @applied old _ _ standing applies =>
    obtain ⟨before, -, -, rfl⟩ := Envelope.applied_spec applies
    exact .inl ⟨⟨old, standing, order⟩, ⟨old, standing, before⟩⟩

/-! ## The books are kept -/

theorem Moves.kept (moves : Moves tid world after) (kept : world.Kept hash envelope) : after.Kept hash envelope := by
  obtain ⟨⟨old, traced, listed⟩, ⟨startedAt, started, early⟩, applied⟩ := kept
  obtain ⟨new, standing, grows⟩ := moves.traced traced
  exact ⟨⟨new, standing, fun submitted => grows.hashes hash (listed submitted)⟩,
    ⟨startedAt, moves.startedAt started, early⟩, applied⟩

theorem Stamps.kept (books : Books world) (stamps : Stamps tid world hash envelope) : world.Kept hash envelope := by
  cases stamps with
  | @signed orderId trace _ traced runs early signs =>
    obtain ⟨of, signedNow, standing⟩ := signEnvelope_spec signs
    subst of
    obtain ⟨startedAt, started⟩ := isSome_iff_exists.mp (books.started _ (by rw [traced]; nofun))
    have intime := early startedAt started
    rw [← signedNow] at intime
    rcases standing with ⟨-, not, open_⟩ | ⟨old, stood, own, submitted, status⟩
    · constructor
      · exact ⟨trace, traced, fun was => absurd (not.symm.trans was) (by decide)⟩
      · exact ⟨startedAt, started, intime⟩
      · exact fun settled => absurd open_ settled
    · obtain ⟨⟨trace', traced', listed⟩, -, applied⟩ := books.envelopes hash old stood
      rw [own] at traced'
      constructor
      · exact ⟨trace', traced', fun was => listed (submitted.symm.trans was)⟩
      · exact ⟨startedAt, started, intime⟩
      · rw [submitted, status]
        exact applied
  | @sent old trace standing traced runs listed =>
    obtain ⟨-, early, -⟩ := books.envelopes hash old standing
    exact ⟨⟨trace, traced, fun _ => listed⟩, early, fun _ => rfl⟩
  | @applied old _ _ standing applies =>
    obtain ⟨was, -, -, rfl⟩ := Envelope.applied_spec applies
    obtain ⟨traced, early, -⟩ := books.envelopes hash old standing
    exact ⟨traced, early, fun _ => was⟩

theorem Moves.tracedTruly (moves : Moves tid world after)
    (traced : world.Traced orderId trace) : after.Traced orderId trace := moves.grows.traced traced

theorem Notes.traced (books : Books world) (notes : Notes tid world orderId trace) : world.Traced orderId trace := by
  cases notes with
  | made => exact ⟨fun _ => ⟨rfl, rfl⟩, fun hash member => absurd member not_mem_nil, nofun, nofun⟩
  | abandoned traced | accepted traced =>
    obtain ⟨fresh, own, failed, settled⟩ := books.traces orderId _ traced
    exact ⟨fresh, own, failed, settled⟩
  | begun traced =>
    obtain ⟨-, own, failed, settled⟩ := books.traces orderId _ traced
    exact ⟨nofun, own, failed, settled⟩
  | @pushed old hash traced runs signed =>
    obtain ⟨-, own, failed, settled⟩ := books.traces orderId _ traced
    refine ⟨fun free => absurd (runs.1.symm.trans free) nofun, fun other member => ?_, fun was => ?_, settled⟩
    · rcases mem_append.mp member with before | last
      · exact own other before
      · obtain rfl := mem_singleton.mp last
        exact signed
    · obtain ⟨other, member, status⟩ := failed was
      exact ⟨other, mem_append_left _ member, status⟩
  | @failed old hash traced _ listed status =>
    obtain ⟨fresh, own, -, settled⟩ := books.traces orderId _ traced
    exact ⟨fresh, own, fun _ => ⟨hash, listed, status⟩, settled⟩
  | @finished old result traced runs settles =>
    obtain ⟨-, own, failed, -⟩ := books.traces orderId _ traced
    refine ⟨fun free => absurd (runs.1.symm.trans free) nofun, own, failed, fun other same success => ?_⟩
    cases same
    exact settles success

/-- A marker that may be written names every submitted envelope. -/
theorem World.Markable.marked (books : Books world) (markable : world.Markable tid marker) :
    world.Marked marker.entry.orderId marker := by
  refine ⟨rfl, markable.created, markable.own, fun _ hash signed submitted => ?_⟩
  obtain ⟨envelope, stands, order⟩ := signed
  obtain ⟨envelope', stands', was⟩ := submitted
  obtain rfl : envelope = envelope' := some.inj (stands.symm.trans stands')
  obtain ⟨trace, traced, listed⟩ := (books.envelopes hash envelope stands).traced
  rw [order] at traced
  rcases markable.ready with ⟨waits⟩ | ⟨stood, -, all⟩ | ⟨-, -, all⟩ | ⟨stood, -, all⟩
  · cases waits.symm.trans traced
  · cases stood.symm.trans traced
    rw [all]
    exact listed was
  · exact all hash ⟨envelope, stands, order⟩ ⟨envelope, stands, was⟩
  · cases stood.symm.trans traced
    rw [all]
    exact listed was

/-- A standing marker still names every submitted envelope after the next step. -/
theorem Moves.markedTruly (moves : Moves tid world after)
    (marked : world.Marked orderId marker) (stands : world.markers orderId = some marker) :
    after.Marked orderId marker := by
  refine ⟨marked.order, moves.startedAt marked.created, fun hash member => moves.signedFor (marked.own hash member), ?_⟩
  intro some hash signed submitted
  rcases moves.submitted signed submitted with ⟨before, was⟩ | ⟨trace, -, -, listed, -, safe⟩
  · exact marked.all some hash before was
  · rcases safe marker stands with none | all
    · exact absurd none some
    · exact all hash listed

theorem Moves.started (books : Books world) (moves : Moves tid world after)
    (began : after.settlements orderId ≠ .waiting) : (after.startedAt orderId).isSome = true := by
  have before : (world.startedAt orderId).isSome = true := by
    by_cases waits : world.settlements orderId = .waiting
    · cases moves with
      | refused _ started =>
        by_cases same : orderId = tid
        · subst same
          exact started
        · exact absurd ((update_of_ne same ..).trans waits) began
      | @noted noted trace notes =>
        by_cases same : orderId = noted
        · subst same
          cases notes with
          | made _ _ _ started => exact started
          | abandoned traced | begun traced | pushed traced | accepted traced | failed traced | finished traced =>
            cases traced.symm.trans waits
        · exact absurd ((world.setTrace_other same _).trans waits) began
      | _ => exact absurd waits began
    · exact books.started orderId waits
  obtain ⟨startedAt, started⟩ := isSome_iff_exists.mp before
  exact isSome_iff_exists.mpr ⟨startedAt, moves.startedAt started⟩

theorem Moves.books (books : Books world) (moves : Moves tid world after) : Books after := by
  constructor
  · exact fun orderId began => moves.started books began
  · intro hash envelope stands
    rcases moves.envelope_from stands with stood | stamps
    · exact moves.kept (books.envelopes hash envelope stood)
    · exact moves.kept (stamps.kept books)
  · intro orderId trace traced
    rcases moves.trace_from traced with stood | notes
    · exact moves.tracedTruly (books.traces orderId trace stood)
    · exact moves.tracedTruly (notes.traced books)
  · intro orderId marker stands
    rcases moves.marker_from stands with stood | ⟨rfl, markable, rfl⟩
    · exact moves.markedTruly (books.markers orderId marker stood) stood
    · obtain ⟨order, created, own, all⟩ := markable.marked books
      exact ⟨order, created, own, all⟩
  · intro row member
    rcases moves.row_from member with before | grounded
    · exact moves.grounded books (books.rows row before)
    · exact moves.grounded books grounded

/-- What the books say of the rows, in terms of the chain. -/
theorem Books.truthful (books : Books world) : world.Truthful := by
  intro row member
  have grounded := books.rows row member
  refine ⟨fun failed hash signed submitted onto => ?_, grounded.settled⟩
  obtain ⟨envelope, stands, order⟩ := signed
  obtain ⟨envelope', stands', success⟩ := onto
  obtain rfl : envelope = envelope' := some.inj (stands.symm.trans stands')
  rcases grounded.failed failed with ⟨-, fails⟩ | ⟨-, lacks⟩
  · obtain ⟨envelope'', stands'', was⟩ := submitted
    obtain rfl : envelope = envelope'' := some.inj (stands.symm.trans stands'')
    have failed := fails hash envelope stands order was
    rw [success] at failed
    cases failed
  · exact lacks hash envelope stands order not_mem_nil success

end Lasting

/-! ## What a thread may rely on -/

/-- The books, and the moves of each thread. -/
def settlementProtocol : Protocol settlementMachine := ⟨Books, Moves⟩

section Stable

variable {tid orderId : ℕ}

theorem stable_of_lasting {assertion : World → Prop} (lasts : ∀ other world after, Books world →
    Moves other world after → assertion world → assertion after) : settlementProtocol.Stable tid assertion :=
  fun other world after _ before _ moves now => lasts other world after before moves now

/-- The request is the only one to start its settlement. -/
def World.Opened (world : World) (orderId startedAt : ℕ) : Prop :=
  world.startedAt orderId = some startedAt ∧ world.settlements orderId = .waiting

theorem stable_opened {startedAt : ℕ} : settlementProtocol.Stable tid fun world => world.Opened tid startedAt := by
  rintro other world after distinct - - moves ⟨started, waits⟩
  refine ⟨moves.startedAt started, ?_⟩
  cases moves with
  | refused _ => exact (update_of_ne (Ne.symm distinct) ..).trans waits
  | @noted noted trace notes =>
    have elsewhere : tid ≠ noted := by
      rintro rfl
      cases notes with
      | made _ own => exact distinct own.symm
      | abandoned traced | begun traced | pushed traced | accepted traced | failed traced | finished traced =>
        cases traced.symm.trans waits
    exact (world.setTrace_other elsewhere _).trans waits
  | _ => exact waits

/-- A thread runs the attempts of an order and has noted these envelopes. -/
def World.Running (world : World) (tid orderId startedAt : ℕ) (hashes : List Hash) : Prop :=
  world.startedAt orderId = some startedAt ∧
    ∃ trace, world.settlements orderId = .traced trace ∧ trace.Runs tid ∧ trace.hashes = hashes

/-- The marker is safe to submit under, or nothing will be submitted. -/
def World.SafeOrAbandoned (world : World) (orderId : ℕ) (hashes : List Hash) : Prop :=
  (∃ trace, world.settlements orderId = .traced trace ∧ trace.abandoned = true) ∨ world.Safe orderId hashes

theorem Moves.runs_stay {other : ℕ} {world after : World} (moves : Moves other world after) (distinct : other ≠ tid)
    {trace : SettleTrace} (traced : world.settlements orderId = .traced trace) (runs : trace.Runs tid) :
    ∃ new, after.settlements orderId = .traced new ∧ new.Runs tid ∧ new.hashes = trace.hashes := by
  have notRuns : ∀ old, world.settlements orderId = .traced old → ¬old.Runs other := by
    intro old stood others
    cases stood.symm.trans traced
    exact distinct (some.inj (others.1.symm.trans runs.1))
  obtain ⟨new, standing, grows⟩ := moves.traced traced
  rcases moves.trace_from standing with stood | notes
  · obtain rfl : new = trace := Settlement.traced.inj (stood.symm.trans traced)
    exact ⟨new, standing, runs, rfl⟩
  · refine ⟨new, standing, ?_⟩
    cases notes with
    | made _ _ waits => cases waits.symm.trans traced
    | abandoned stood =>
      cases stood.symm.trans traced
      exact ⟨runs, rfl⟩
    | begun stood free =>
      cases stood.symm.trans traced
      cases free.symm.trans runs.1
    | pushed stood others | accepted stood others | failed stood others | finished stood others =>
      exact absurd others (notRuns _ stood)

theorem stable_running {startedAt : ℕ} {hashes : List Hash} :
    settlementProtocol.Stable tid fun world => world.Running tid orderId startedAt hashes := by
  rintro other world after distinct - - moves ⟨started, trace, traced, runs, rfl⟩
  obtain ⟨new, standing, runs', same⟩ := moves.runs_stay distinct traced runs
  exact ⟨moves.startedAt started, new, standing, runs', same⟩

/-- Only the runner itself, or a request that abandoned the attempts, writes the marker meanwhile. -/
theorem stable_safe {startedAt : ℕ} {hashes : List Hash} : settlementProtocol.Stable tid fun world =>
      world.Running tid orderId startedAt hashes ∧ world.SafeOrAbandoned orderId hashes := by
  rintro other world after distinct before kept moves ⟨running, safe⟩
  refine ⟨stable_running other world after distinct before kept moves running, ?_⟩
  obtain ⟨-, trace, traced, runs, -⟩ := running
  rcases safe with ⟨old, stood, abandoned⟩ | safe
  · obtain ⟨new, standing, grows⟩ := moves.traced stood
    exact .inl ⟨new, standing, grows.abandoned abandoned⟩
  · by_cases abandoned : trace.abandoned = true
    · obtain ⟨new, standing, grows⟩ := moves.traced traced
      exact .inl ⟨new, standing, grows.abandoned abandoned⟩
    · refine .inr fun marker stands => ?_
      rcases moves.marker_from stands with stood | ⟨rfl, markable, -⟩
      · exact safe marker stood
      · exfalso
        rcases markable.ready with ⟨waits⟩ | ⟨stood, others⟩ | ⟨stood, is⟩ | ⟨stood, ended⟩
        · cases waits.symm.trans traced
        · cases stood.symm.trans traced
          exact distinct (some.inj (others.1.symm.trans runs.1))
        · cases stood.symm.trans traced
          exact abandoned is
        · cases stood.symm.trans traced
          exact runs.open ended

end Stable

end MppRouter.X402
