import MppRouter.Core.RelyGuarantee
import MppRouter.Refund.Signer

/-! # A refund is paid at most once

Every envelope handed to the network is accounted for: it is the record's stored envelope, or it is
dead, so no later ledger can include it. The stored envelope is replaced only after it was proven
dead, as long as operator recoveries keep to that too and no completion arrives for a refund that
has been confirmed in the meantime.
-/

namespace MppRouter.Refund

open Concurrent Machine Mpp Protocol List Option

def Stores (record : Option RefundRecord) (envelope : Envelope) : Prop :=
  ∃ stored, record = some stored ∧ stored.signedXdr = some envelope

/-- No ledger includes the envelope, and none can: a ledger has closed past its time bound. -/
def World.Dead (world : World) (envelope : Envelope) : Prop :=
  envelope ∉ world.included ∧ 0 < envelope.maxTime ∧ envelope.maxTime < latestCloseTime world.ledgers

instance (world : World) (envelope : Envelope) : Decidable (world.Dead envelope) :=
  inferInstanceAs (Decidable (_ ∧ _ ∧ _))

/-- An envelope that may have been handed to the network without endangering another one. -/
def World.Accounted (world : World) (envelope : Envelope) : Prop :=
  Stores world.record envelope ∨ world.Dead envelope

/-- What each state of the record says about its envelope. -/
structure WellFormed (record : Option RefundRecord) : Prop where
  unsigned : ∀ stored, record = some stored → stored.state = .pending ∨ stored.state = .leased →
    stored.signedXdr = none
  submitted : ∀ stored, record = some stored → stored.state = .submitted →
    ∃ envelope, stored.signedXdr = some envelope ∧ stored.refundTx = some envelope.hash ∧ envelope.soroban = true

structure Safe (world : World) : Prop where
  wellFormed : WellFormed world.record
  accounted : ∀ envelope ∈ world.broadcast, world.Accounted envelope
  included : ∀ envelope ∈ world.included, envelope ∈ world.broadcast
  bounded : ∀ ledger ∈ world.ledgers, ∀ envelope ∈ ledger.transactions.map Prod.fst,
    envelope.validAt ledger.closeTime

/-- All envelopes on chain are the one the record stores. -/
theorem Safe.included_unique {world : World} (safe : Safe world) {left right : Envelope}
    (first : left ∈ world.included) (second : right ∈ world.included) : left = right := by
  obtain ⟨stored, found, signed⟩ | dead := safe.accounted left (safe.included left first)
  · obtain ⟨other, same, otherSigned⟩ | dead := safe.accounted right (safe.included right second)
    · obtain rfl : stored = other := some.inj (found.symm.trans same)
      exact some.inj (signed.symm.trans otherSigned)
    · exact absurd second dead.1
  · exact absurd first dead.1

/-- What a thread may rely on: an accounted envelope stays accounted, a dead one stays dead. -/
structure Keeps (before after : World) : Prop where
  accounted : ∀ envelope, before.Accounted envelope → after.Accounted envelope
  dead : ∀ envelope, before.Dead envelope → after.Dead envelope

theorem Keeps.refl (world : World) : Keeps world world := ⟨fun _ known => known, fun _ known => known⟩

def refundProtocol : Protocol refundMachine where
  Inv := Safe
  Guar _ := Keeps

/-- The two steps that can discard a live envelope. An unpark that changes the record finds no stored
envelope or a dead one; a completion to `submitted` finds the refund not yet confirmed. -/
def Recoverable : refundMachine.Admits := fun _ action _ world =>
  match action with
  | .unpark _ => ∀ record ∈ world.record, record.state = .manualReview →
      ∀ envelope ∈ record.signedXdr, world.Dead envelope
  | .complete _ update => update.state = .submitted → ∀ record ∈ world.record, record.state ≠ .confirmed
  | _ => True

instance (tid : ℕ) (action : Action) (choice : Choice) (world : World) :
    Decidable (Recoverable tid action choice world) :=
  match action with
  | .unpark _ => inferInstanceAs (Decidable (∀ record ∈ world.record, record.state = .manualReview →
      ∀ envelope ∈ record.signedXdr, world.Dead envelope))
  | .complete _ update => inferInstanceAs (Decidable (update.state = .submitted →
      ∀ record ∈ world.record, record.state ≠ .confirmed))
  | .enqueue _ _ _ | .pendingJob | .randomUuid | .lease _ | .buildSignedRefund | .readRefund | .send _
  | .getTransaction _ | .requeue _ _ | .closeLedger => inferInstanceAs (Decidable True)

/-! ## The record -/

/-- A new record that keeps every stored envelope or leaves it dead. -/
structure Progress (world : World) (next : Option RefundRecord) : Prop where
  keeps : ∀ envelope, Stores world.record envelope → Stores next envelope ∨ world.Dead envelope
  wellFormed : WellFormed next

theorem Progress.refl {world : World} (safe : Safe world) : Progress world world.record :=
  ⟨fun _ stores => .inl stores, safe.wellFormed⟩

theorem Progress.keeps_protocol {world : World} (safe : Safe world) {next : Option RefundRecord}
    (progress : Progress world next) :
    Safe { world with record := next } ∧ Keeps world { world with record := next } := by
  have accounted : ∀ envelope, world.Accounted envelope →
      ({ world with record := next } : World).Accounted envelope := by
    rintro envelope (stores | dead)
    · exact progress.keeps envelope stores
    · exact .inr dead
  refine ⟨⟨progress.wellFormed, ?_, safe.included, safe.bounded⟩, accounted, fun _ dead => dead⟩
  exact fun envelope member => accounted envelope (safe.accounted envelope member)

theorem wellFormed_some {record : RefundRecord}
    (unsigned : record.state = .pending ∨ record.state = .leased → record.signedXdr = none)
    (submitted : record.state = .submitted → ∃ envelope, record.signedXdr = some envelope ∧
      record.refundTx = some envelope.hash ∧ envelope.soroban = true) : WellFormed (some record) := by
  constructor
  · intro stored same
    cases same
    exact unsigned
  · intro stored same
    cases same
    exact submitted

theorem stores_some {record : RefundRecord} {envelope : Envelope} :
    Stores (some record) envelope ↔ record.signedXdr = some envelope := by
  constructor
  · rintro ⟨stored, same, signed⟩
    cases same
    exact signed
  · exact fun signed => ⟨record, rfl, signed⟩

section Updates

variable {world : World}

theorem enqueueRefund_progress (safe : Safe world) {refundId publicId : String} {now : ℕ} {input : EnqueueInput}
    {decision : Decision RefundRecord RefundRecord}
    (accepted : enqueueRefund refundId publicId now input world.record = .ok decision) :
    Progress world (decision.after world.record) := by
  simp only [enqueueRefund] at accepted
  split_ifs at accepted
  cases found : world.record with
  | some existing =>
    rw [found] at accepted
    cases accepted
    have same := Progress.refl safe
    rwa [found] at same
  | none =>
    rw [found] at accepted
    cases accepted
    refine ⟨?_, wellFormed_some (fun _ => rfl) (fun same => nomatch same)⟩
    rintro envelope ⟨stored, same, -⟩
    rw [found] at same
    cases same

theorem leaseRefund_progress (safe : Safe world) (leaseId : String) (now : ℕ) :
    Progress world ((leaseRefund leaseId now world.record).after world.record) := by
  have same := Progress.refl safe
  cases found : world.record with
  | none =>
    rw [found] at same
    exact same
  | some record =>
    rw [found] at same
    simp only [leaseRefund]
    split_ifs with active idle
    · exact same
    · exact same
    · have unsigned : record.signedXdr = none := by
        refine safe.wellFormed.unsigned record found ?_
        by_contra other
        exact idle (not_or.mp other)
      refine ⟨?_, wellFormed_some (fun _ => unsigned) (fun same => nomatch same)⟩
      intro envelope stores
      rw [found, stores_some, unsigned] at stores
      cases stores

/-- The completions a lease holder asks for: a submission carries the envelope it hashes, any other
update carries none. -/
def CompleteUpdate.Sound (update : CompleteUpdate) : Prop :=
  if update.state = .submitted then
    ∃ envelope, update.signedXdr = some envelope ∧ update.refundTx = envelope.hash ∧ envelope.soroban = true
  else update.signedXdr = none

variable {update : CompleteUpdate}

theorem CompleteUpdate.sound_of_unsigned (other : update.state ≠ .submitted)
    (missing : update.signedXdr = none) : update.Sound := by
  rw [CompleteUpdate.Sound, if_neg other]
  exact missing

theorem completeRefund_cases (leaseId : String) (sound : update.Sound) (now : ℕ) (record : RefundRecord) :
    (∃ answer, completeRefund leaseId update now (some record) = .noop answer ∧
      (answer ≠ none → record.state = .confirmed ∨
        ∀ envelope, update.signedXdr = some envelope → record.signedXdr = some envelope)) ∨
    (∃ next, completeRefund leaseId update now (some record) = .set next (some next) ∧
      next.signedXdr = record.signedXdr ∧ (next.state = .manualReview ∨ next.state = .confirmed) ∧
      update.signedXdr = none) ∨
    ∃ next, completeRefund leaseId update now (some record) = .set next (some next) ∧
      record.state = .leased ∧ next.state = .submitted ∧ next.signedXdr = update.signedXdr ∧
      next.refundTx = some update.refundTx ∧ update.state = .submitted := by
  simp only [completeRefund]
  by_cases confirmed : record.state = .confirmed
  · rw [if_pos confirmed]
    exact .inl ⟨_, rfl, fun _ => .inl confirmed⟩
  rw [if_neg confirmed]
  by_cases foreign : record.lease.map Lease.id ≠ some leaseId
  · rw [if_pos foreign]
    exact .inl ⟨_, rfl, fun some => absurd rfl some⟩
  rw [if_neg foreign]
  by_cases again : record.state = .submitted ∧ update.state ≠ .confirmed
  · rw [if_pos again]
    by_cases submission : update.state = .submitted
    · rw [if_pos submission]
      refine .inl ⟨_, rfl, fun answered => .inr fun envelope carried => ?_⟩
      split_ifs at answered with identical
      · obtain ⟨-, missing | same⟩ := identical
        · rw [carried] at missing
          cases missing
        · exact same.trans carried
      · exact absurd rfl answered
    · rw [if_neg submission]
      by_cases identical : record.refundTx = some update.refundTx ∧
          (update.signedXdr = none ∨ record.signedXdr = update.signedXdr)
      · rw [if_neg (not_not.mpr identical)]
        refine .inr (.inl ⟨_, rfl, rfl, .inl rfl, ?_⟩)
        simpa only [CompleteUpdate.Sound, if_neg submission] using sound
      · rw [if_pos identical]
        exact .inl ⟨_, rfl, fun some => absurd rfl some⟩
  rw [if_neg again]
  by_cases early : update.state = .confirmed ∧ record.state ≠ .submitted
  · rw [if_pos early]
    exact .inl ⟨_, rfl, fun some => absurd rfl some⟩
  rw [if_neg early]
  by_cases unleased : update.state = .submitted ∧ (update.signedXdr = none ∨ record.state ≠ .leased)
  · rw [if_pos unleased]
    exact .inl ⟨_, rfl, fun some => absurd rfl some⟩
  rw [if_neg unleased]
  cases completion : update.state with
  | submitted =>
    have leased : record.state = .leased := by
      by_contra other
      exact unleased ⟨completion, .inr other⟩
    obtain ⟨envelope, carried, -, -⟩ : ∃ envelope, update.signedXdr = some envelope ∧
        update.refundTx = envelope.hash ∧ envelope.soroban = true := by
      simpa only [CompleteUpdate.Sound, if_pos completion] using sound
    exact .inr (.inr ⟨_, rfl, leased, rfl, by simp only [carried, some_or], rfl, rfl⟩)
  | confirmed =>
    have missing : update.signedXdr = none := by simpa [CompleteUpdate.Sound, completion] using sound
    exact .inr (.inl ⟨_, rfl, by simp only [missing, none_or], .inr rfl, missing⟩)
  | manualReview =>
    have missing : update.signedXdr = none := by simpa [CompleteUpdate.Sound, completion] using sound
    exact .inr (.inl ⟨_, rfl, by simp only [missing, none_or], .inl rfl, missing⟩)

theorem completeRefund_progress (safe : Safe world) (leaseId : String) (sound : update.Sound) (now : ℕ) :
    Progress world ((completeRefund leaseId update now world.record).after world.record) := by
  have same := Progress.refl safe
  cases found : world.record with
  | none =>
    rw [found] at same
    exact same
  | some record =>
    rw [found] at same
    obtain ⟨answer, decided, -⟩ | ⟨next, decided, kept, state, -⟩ |
      ⟨next, decided, leased, state, carried, hash, submission⟩ := completeRefund_cases leaseId sound now record
    · rw [decided]
      exact same
    · rw [decided]
      refine ⟨fun envelope stores => .inl ?_, wellFormed_some ?_ ?_⟩
      · rw [found, stores_some] at stores
        exact stores_some.mpr (kept.trans stores)
      · rcases state with state | state <;> simp [state]
      · rcases state with state | state <;> simp [state]
    · rw [decided]
      have unsigned := safe.wellFormed.unsigned record found (.inr leased)
      refine ⟨fun envelope stores => ?_, wellFormed_some (by simp [state]) fun _ => ?_⟩
      · rw [found, stores_some, unsigned] at stores
        cases stores
      · rw [CompleteUpdate.Sound, if_pos submission] at sound
        obtain ⟨envelope, signed, hashes, soroban⟩ := sound
        exact ⟨envelope, carried.trans signed, hashes ▸ hash, soroban⟩

/-- An accepted submission of an envelope leaves it accounted for. -/
theorem completeRefund_accepted {leaseId : String} {envelope : Envelope} (soroban : envelope.soroban = true)
    {now : ℕ} (live : ∀ record ∈ world.record, record.state ≠ .confirmed)
    (answered : (completeRefund leaseId ⟨.submitted, envelope.hash, some envelope, none⟩ now world.record).result
      ≠ none) :
    Stores ((completeRefund leaseId ⟨.submitted, envelope.hash, some envelope, none⟩ now world.record).after
      world.record) envelope := by
  have sound : CompleteUpdate.Sound ⟨.submitted, envelope.hash, some envelope, none⟩ :=
    ⟨envelope, rfl, rfl, soroban⟩
  cases found : world.record with
  | none =>
    rw [found] at answered
    exact absurd rfl answered
  | some record =>
    rw [found] at answered
    obtain ⟨answer, decided, reason⟩ | ⟨next, decided, -, -, missing⟩ | ⟨next, decided, -, -, carried, -, -⟩ :=
      completeRefund_cases leaseId sound now record
    · rw [decided] at answered ⊢
      rcases reason answered with confirmed | stored
      · exact absurd confirmed (live record found)
      · exact stores_some.mpr (stored envelope rfl)
    · cases missing
    · rw [decided]
      exact stores_some.mpr carried

theorem requeueMalformedRefund_progress (safe : Safe world) (leaseId : String) {envelope : Envelope}
    (dead : world.Dead envelope) :
    Progress world ((requeueMalformedRefund leaseId envelope.hash world.record).after world.record) := by
  have same := Progress.refl safe
  cases found : world.record with
  | none =>
    rw [found] at same
    exact same
  | some record =>
    rw [found] at same
    simp only [requeueMalformedRefund]
    split_ifs with foreign changed
    · exact same
    · exact same
    · obtain ⟨submitted, -⟩ := not_or.mp foreign
      obtain ⟨expected, -⟩ := not_or.mp changed
      refine ⟨fun other stores => .inr ?_, wellFormed_some (fun _ => rfl) (fun state => nomatch state)⟩
      obtain ⟨stored, signed, hashed, -⟩ := safe.wellFormed.submitted record found (not_not.mp submitted)
      rw [found, stores_some, signed] at stores
      have matched : envelope.hash = stored.hash :=
        some.inj ((not_not.mp expected).symm.trans hashed)
      obtain rfl := Envelope.hash_injective matched
      cases stores
      exact dead

theorem unparkRefund_progress (safe : Safe world) (reason : Option String) (now : ℕ)
    (discarded : ∀ record ∈ world.record, record.state = .manualReview →
      ∀ envelope ∈ record.signedXdr, world.Dead envelope) :
    Progress world ((unparkRefund reason now world.record).after world.record) := by
  have same := Progress.refl safe
  cases found : world.record with
  | none =>
    rw [found] at same
    exact same
  | some record =>
    rw [found] at same
    simp only [unparkRefund]
    split_ifs with pending live
    · exact same
    · exact same
    · refine ⟨fun envelope stores => .inr ?_, wellFormed_some (fun _ => rfl) (fun state => nomatch state)⟩
      rw [found, stores_some] at stores
      exact discarded record found (not_not.mp live) envelope stores

end Updates

/-! ## The network -/

section Network

variable {world : World}

variable {envelope : Envelope}

theorem mem_includedIn {ledgers : List Ledger} :
    envelope ∈ includedIn ledgers ↔ ∃ ledger ∈ ledgers, envelope ∈ ledger.transactions.map Prod.fst := by
  simp only [includedIn, mem_flatMap]

/-- Handing an accounted envelope to the network is safe. -/
theorem Safe.send (safe : Safe world) (accounted : world.Accounted envelope) :
    Safe { world with broadcast := envelope :: world.broadcast } := by
  refine ⟨safe.wellFormed, ?_, fun other member => mem_cons_of_mem _ (safe.included other member),
    safe.bounded⟩
  intro other member
  rcases mem_cons.mp member with rfl | earlier
  · exact accounted
  · exact safe.accounted other earlier

theorem World.Dead.close (dead : world.Dead envelope) {ledger : Ledger}
    (follows : ledger.follows world) : ({ world with ledgers := ledger :: world.ledgers } : World).Dead envelope := by
  obtain ⟨absent, bounded, expired⟩ := dead
  obtain ⟨later, -, rules⟩ := follows
  refine ⟨?_, bounded, Nat.lt_trans expired later⟩
  intro member
  obtain ⟨other, listed, contains⟩ := mem_includedIn.mp member
  rcases mem_cons.mp listed with rfl | earlier
  · obtain ⟨-, ⟨-, unbounded | inTime⟩, -⟩ := rules envelope contains
    · omega
    · omega
  · exact absent (mem_includedIn.mpr ⟨other, earlier, contains⟩)

theorem Safe.close (safe : Safe world) {ledger : Ledger} (follows : ledger.follows world) :
    Safe { world with ledgers := ledger :: world.ledgers } ∧
      Keeps world { world with ledgers := ledger :: world.ledgers } := by
  have dead : ∀ envelope, world.Dead envelope →
      ({ world with ledgers := ledger :: world.ledgers } : World).Dead envelope := fun _ known => known.close follows
  have accounted : ∀ envelope, world.Accounted envelope →
      ({ world with ledgers := ledger :: world.ledgers } : World).Accounted envelope :=
    fun envelope known => known.imp_right (dead envelope)
  refine ⟨⟨safe.wellFormed, fun envelope member => accounted envelope (safe.accounted envelope member), ?_, ?_⟩,
    accounted, dead⟩
  · intro envelope member
    obtain ⟨other, listed, contains⟩ := mem_includedIn.mp member
    rcases mem_cons.mp listed with rfl | earlier
    · exact (follows.2.2 envelope contains).1
    · exact safe.included envelope (mem_includedIn.mpr ⟨other, earlier, contains⟩)
  · intro other listed envelope contains
    rcases mem_cons.mp listed with rfl | earlier
    · exact (follows.2.2 envelope contains).2.1
    · exact safe.bounded other earlier envelope contains

/-- An answer reports the window of the node that gave it. -/
theorem answerFor_times (ledgers : List Ledger) (oldest latest : ℕ) (hash : TxHash) :
    (answerFor ledgers oldest latest hash).latestLedgerCloseTime = latest ∧
      (answerFor ledgers oldest latest hash).oldestLedgerCloseTime = oldest := by
  simp only [answerFor]
  split <;> exact ⟨rfl, rfl⟩

/-- An envelope that a node did not find is in none of the ledgers that the node retains. -/
theorem absent_of_notFound {ledgers : List Ledger} {oldest latest : ℕ} {hash : TxHash}
    (missing : (answerFor ledgers oldest latest hash).status = .notFound) : ∀ ledger ∈ ledgers,
    oldest ≤ ledger.closeTime → ledger.closeTime ≤ latest → hash.content ∉ ledger.transactions.map Prod.fst := by
  intro ledger member started ended contains
  simp only [answerFor] at missing
  split at missing
  next absent =>
    have retained : ledger ∈ ledgers.filter fun ledger => oldest ≤ ledger.closeTime ∧ ledger.closeTime ≤ latest := by
      rw [mem_filter, decide_eq_true_eq]
      exact ⟨member, started, ended⟩
    exact find?_eq_none.mp absent ledger retained (decide_eq_true contains)
  next found _ =>
    simp only at missing
    split_ifs at missing

/-- A node that did not find an envelope in ledgers that cover its whole window proves it dead. -/
theorem Safe.dead_of_notFound (safe : Safe world) {oldest latest : ℕ} (known : latest ≤ latestCloseTime world.ledgers)
    (missing : (answerFor world.ledgers oldest latest envelope.hash).status = .notFound)
    (outlived : envelope.Outlived latest oldest) : world.Dead envelope := by
  obtain ⟨minTime, maxTime, late, -, covered⟩ := outlived
  refine ⟨fun member => ?_, maxTime, by omega⟩
  obtain ⟨ledger, listed, contains⟩ := mem_includedIn.mp member
  obtain ⟨started, unbounded | ended⟩ := safe.bounded ledger listed envelope contains
  · omega
  exact absent_of_notFound missing ledger listed (by omega) (by omega) contains

end Network

/-! ## The programs -/

section Programs

variable {tid : ℕ} {world : World}

/-- A program keeps the protocol from a world on and establishes its postcondition. -/
abbrev Spec (tid : ℕ) {α : Type} (program : Signer α) (post : α → World → Prop) (world : World) : Prop :=
  refundProtocol.Holds Recoverable tid program post world

theorem accounted_stable (envelope : Envelope) : refundProtocol.Stable tid fun world => world.Accounted envelope :=
  fun _ _ _ _ _ _ guar known => guar.accounted envelope known

theorem dead_stable (envelope : Envelope) : refundProtocol.Stable tid fun world => world.Dead envelope :=
  fun _ _ _ _ _ _ guar known => guar.dead envelope known

/-- The actions that only observe. -/
def Action.quiet : Action → Bool
  | .pendingJob | .randomUuid | .buildSignedRefund | .readRefund | .getTransaction _ => true
  | _ => false

theorem perform_quiet {action : Action} (quiet : action.quiet = true) {choice : Choice} {before after : World}
    {answer : action.Answer} (performed : perform action choice before = some (answer, after)) :
    after = before := by
  cases action with
  | pendingJob | randomUuid | buildSignedRefund | readRefund =>
    cases choice <;> cases performed
    rfl
  | getTransaction hash =>
    cases choice with
    | retained oldest latest =>
      simp only [perform] at performed
      split_ifs at performed
      cases performed
      rfl
    | _ => cases performed
  | _ => cases quiet

/-- The rule of an observation: what is known before is known after, with the answer. -/
theorem spec_quiet {action : Action} (quiet : action.quiet = true) {post : action.Answer → World → Prop}
    (known : World → Prop) (stable : refundProtocol.Stable tid known) (now : known world)
    (answered : ∀ before choice answer, Safe before → known before →
      perform action choice before = some (answer, before) → post answer before) :
    Spec tid (call action) post world := by
  refine Holds.step known stable now ?_
  intro before safe holds choice answer after _ performed
  obtain rfl := perform_quiet quiet performed
  exact ⟨safe, .refl _, answered _ choice answer safe holds performed⟩

variable {envelope : Envelope}

/-- A node's answer that proves an envelope dead is about the ledgers closed by then. -/
theorem dead_of_getTransaction {before : World} (safe : Safe before) {choice : Choice}
    {result : GetTransactionResponse}
    (performed : perform (.getTransaction envelope.hash) choice before = some (result, before))
    (missing : result.status = .notFound)
    (outlived : envelope.Outlived result.latestLedgerCloseTime result.oldestLedgerCloseTime) : before.Dead envelope := by
  cases choice with
  | retained oldest latest =>
    simp only [perform] at performed
    split_ifs at performed with known
    cases performed
    have times := answerFor_times before.ledgers oldest latest envelope.hash
    rw [times.1, times.2] at outlived
    exact safe.dead_of_notFound known missing outlived
  | _ => cases performed

theorem spec_observe {action : Action} (quiet : action.quiet = true) :
    Spec tid (call action) anyhow world :=
  spec_quiet quiet (fun _ => True) (.const True) trivial fun _ _ _ _ _ _ => trivial

theorem spec_build : Spec tid (call .buildSignedRefund) (fun prepared _ => prepared.soroban = true) world := by
  refine spec_quiet rfl (fun _ => True) (.const True) trivial ?_
  intro before choice answer _ _ performed
  cases choice <;> cases performed
  rfl

theorem spec_pendingJob : Spec tid (call .pendingJob) (fun answer after => ∀ job, answer = some job →
    ∀ envelope, job.signedXdr = some envelope → after.Accounted envelope) world := by
  refine spec_quiet rfl (fun _ => True) (.const True) trivial ?_
  intro before choice answer _ _ performed job found envelope signed
  cases choice <;> cases performed
  exact .inl ⟨job, (filter_eq_some_iff.mp found).1, signed⟩

theorem spec_lease (leaseId : String) : Spec tid (call (.lease leaseId)) anyhow world := by
  refine Holds.step (fun _ => True) (.const True) trivial ?_
  intro before safe _ choice answer after _ performed
  cases choice <;> cases performed
  obtain ⟨kept, guar⟩ := (leaseRefund_progress safe leaseId _).keeps_protocol safe
  exact ⟨kept, guar, trivial⟩

theorem spec_complete (leaseId : String) {update : CompleteUpdate} (sound : update.Sound) :
    Spec tid (call (.complete leaseId update)) anyhow world := by
  refine Holds.step (fun _ => True) (.const True) trivial ?_
  intro before safe _ choice answer after _ performed
  cases choice <;> cases performed
  obtain ⟨kept, guar⟩ := (completeRefund_progress safe leaseId sound _).keeps_protocol safe
  exact ⟨kept, guar, trivial⟩

/-- A submission that is answered with a record leaves its envelope accounted for. -/
theorem spec_submit (leaseId : String) (soroban : envelope.soroban = true) :
    Spec tid (call (.complete leaseId ⟨.submitted, envelope.hash, some envelope, none⟩))
      (fun answer after => answer ≠ none → after.Accounted envelope) world := by
  refine Holds.step (fun _ => True) (.const True) trivial ?_
  intro before safe _ choice answer after admitted performed
  cases choice <;> cases performed
  have sound : CompleteUpdate.Sound ⟨.submitted, envelope.hash, some envelope, none⟩ :=
    ⟨envelope, rfl, rfl, soroban⟩
  obtain ⟨kept, guar⟩ := (completeRefund_progress safe leaseId sound _).keeps_protocol safe
  exact ⟨kept, guar, fun answered => .inl (completeRefund_accepted soroban (admitted rfl) answered)⟩

theorem spec_requeue (leaseId : String) (dead : world.Dead envelope) :
    Spec tid (call (.requeue leaseId envelope.hash)) anyhow world := by
  refine Holds.step _ (dead_stable envelope) dead ?_
  intro before safe dead choice answer after _ performed
  cases choice <;> cases performed
  obtain ⟨kept, guar⟩ := (requeueMalformedRefund_progress safe leaseId dead).keeps_protocol safe
  exact ⟨kept, guar, trivial⟩

theorem spec_send (accounted : world.Accounted envelope) :
    Spec tid (call (.send envelope)) anyhow world := by
  refine Holds.step _ (accounted_stable envelope) accounted ?_
  intro before safe accounted choice answer after _ performed
  cases choice <;> cases performed
  exact ⟨safe.send accounted, ⟨fun _ known => known, fun _ known => known⟩, trivial⟩

theorem spec_waitForTransaction (hash : TxHash) (attempts : ℕ) :
    Spec tid (waitForTransaction hash attempts) anyhow world := by
  induction attempts generalizing world with
  | zero => exact trivial
  | succ attempts ih =>
    refine Holds.bind ((spec_observe rfl).mono fun result _ _ => ?_)
    cases result.status with
    | success => exact trivial
    | failed => exact trivial
    | notFound => exact ih

/-- The update of a rejection is sound: it carries no envelope. -/
theorem spec_parkRejected (leaseId : String) (refundTx : TxHash) :
    Spec tid (parkRejected leaseId refundTx) anyhow world := by
  have sound : CompleteUpdate.Sound { state := .manualReview, refundTx } :=
    CompleteUpdate.sound_of_unsigned (fun same => nomatch same) rfl
  refine Holds.bind ((spec_observe rfl).mono fun current _ _ => ?_)
  cases current with
  | none => exact trivial
  | some current =>
    dsimp only
    split_ifs with foreign malformed
    · exact trivial
    · exact trivial
    · exact Holds.bind (spec_complete leaseId sound).loose

theorem spec_submitRoute (leaseId : String) (soroban : envelope.soroban = true) :
    Spec tid (completeRoute leaseId ⟨.submitted, envelope.hash, some envelope, none⟩)
      (fun ok after => ok = true → after.Accounted envelope) world := by
  refine Holds.bind ((spec_observe rfl).mono fun current _ _ => ?_)
  cases current with
  | none => exact fun same => nomatch same
  | some current =>
    dsimp only
    split_ifs with foreign malformed
    · exact fun same => nomatch same
    · exact fun same => nomatch same
    · refine Holds.bind ((spec_submit leaseId soroban).mono fun answer after accounted => ?_)
      exact fun answered => accounted (isSome_iff_ne_none.mp answered)

theorem spec_confirmRoute (leaseId : String) : Spec tid (confirmRoute leaseId) anyhow world := by
  refine Holds.bind ((spec_observe rfl).mono fun current _ _ => ?_)
  cases current with
  | none => exact trivial
  | some current =>
    dsimp only
    split_ifs with foreign
    · exact trivial
    · split
      next signedXdr refundTx signed stored =>
        refine Holds.bind ((spec_observe rfl).mono fun result _ _ => ?_)
        split_ifs
        · exact trivial
        · refine Holds.bind (spec_complete leaseId ?_).loose
          exact CompleteUpdate.sound_of_unsigned (fun same => nomatch same) rfl
      next => exact trivial

theorem spec_readRefund : Spec tid (call .readRefund) (fun answer _ => ∀ record, answer = some record →
    record.state = .submitted → ∀ envelope, record.signedXdr = some envelope → envelope.soroban = true) world := by
  refine spec_quiet rfl (fun _ => True) (.const True) trivial ?_
  intro before choice answer safe _ performed record found state envelope signed
  cases choice <;> cases performed
  obtain ⟨stored, same, -, soroban⟩ := safe.wellFormed.submitted record found state
  obtain rfl := some.inj (same.symm.trans signed)
  exact soroban

theorem spec_getTransaction (envelope : Envelope) : Spec tid (call (.getTransaction envelope.hash))
    (fun result after => result.status = .notFound →
      envelope.Outlived result.latestLedgerCloseTime result.oldestLedgerCloseTime → after.Dead envelope) world :=
  spec_quiet rfl (fun _ => True) (.const True) trivial fun _ _ _ safe _ performed =>
    dead_of_getTransaction safe performed

/-- The recovery route discards only an envelope it has proven dead. -/
theorem spec_requeueRoute (leaseId : String) : Spec tid (requeueRoute leaseId) anyhow world := by
  refine Holds.bind (spec_readRefund.mono fun current after submitted => ?_)
  cases current with
  | none => exact trivial
  | some current =>
    dsimp only
    split_ifs with foreign
    · exact trivial
    · split
      next signedXdr refundTx signed stored =>
        have soroban := submitted current rfl (not_not.mp (not_or.mp foreign).1) signedXdr signed
        split_ifs with mismatch
        · exact trivial
        · obtain rfl : signedXdr.hash = refundTx := not_not.mp mismatch
          refine Holds.bind ((spec_getTransaction signedXdr).mono fun result after proven => ?_)
          split_ifs with present unproven
          · exact trivial
          · exact trivial
          · rw [not_and, not_not] at unproven
            have dead := proven (not_not.mp present) (StellarProof.isProvablyDeadEnvelope_iff.mp (unproven soroban))
            exact Holds.bind (spec_requeue leaseId dead).loose
      next => exact trivial

theorem spec_sendAndConfirm (leaseId : String) (accounted : world.Accounted envelope) :
    Spec tid (sendAndConfirm (fun program => program) confirmRoute leaseId envelope) anyhow world := by
  have confirmed : ∀ after, Spec tid (do
      if ← waitForTransaction envelope.hash pollAttempts then do
        let confirmed ← confirmRoute leaseId
        pure (if confirmed then some envelope.hash else none)
      else pure none) anyhow after := by
    intro after
    refine Holds.bind ((spec_waitForTransaction _ _).mono fun landed _ _ => ?_)
    split_ifs
    · exact Holds.bind (spec_confirmRoute leaseId).loose
    · exact trivial
  refine Holds.bind ((spec_send accounted).mono fun status after _ => ?_)
  cases status with
  | error code =>
    dsimp only
    split_ifs
    · exact trivial
    · exact Holds.bind (spec_parkRejected leaseId _).loose
  | pending => exact confirmed after
  | duplicate => exact confirmed after
  | tryAgainLater => exact confirmed after

/-- A pending job is signed afresh; its envelope is sent only once the record stores it. -/
theorem spec_executePending (job : RefundRecord) :
    Spec tid (executePending (fun program => program) confirmRoute job) anyhow world := by
  refine Holds.bind ((spec_observe rfl).mono fun leaseId _ _ => ?_)
  refine Holds.bind ((spec_lease leaseId).mono fun leased _ _ => ?_)
  cases leased with
  | none => exact trivial
  | some leased =>
    dsimp only
    split_ifs
    · refine Holds.bind (spec_build.mono fun prepared _ soroban => ?_)
      refine Holds.bind ((spec_submitRoute leaseId soroban).mono fun submitted after accounted => ?_)
      split_ifs with accepted
      · exact spec_sendAndConfirm leaseId (accounted accepted)
      · exact trivial
    · exact trivial

/-- A submitted job re-sends the envelope its snapshot stores, which is accounted for ever since. -/
theorem spec_confirmSubmitted {job : RefundRecord}
    (accounted : ∀ envelope, job.signedXdr = some envelope → world.Accounted envelope) :
    Spec tid (confirmSubmitted (fun program => program) confirmRoute job) anyhow world := by
  simp only [confirmSubmitted]
  split
  next signedXdr refundTx lease signed _ _ =>
    split_ifs with malformed
    · exact trivial
    · refine Holds.bind ((spec_quiet rfl _ (accounted_stable signedXdr) (accounted _ signed)
        fun _ _ _ _ known _ => known).mono fun existing after known => ?_)
      split_ifs with landed expired
      · exact Holds.bind (spec_confirmRoute lease.id).loose
      · refine Holds.bind ((spec_requeueRoute lease.id).mono fun requeued _ _ => ?_)
        split_ifs
        · exact spec_executePending _
        · exact trivial
      · exact spec_sendAndConfirm lease.id known
  next => exact trivial

theorem spec_signerRun : Spec tid signerRun anyhow world := by
  refine Holds.bind (spec_pendingJob.mono fun job after accounted => ?_)
  cases job with
  | none => exact trivial
  | some job =>
    have executed : Spec tid (execute (fun program => program) confirmRoute job) anyhow after := by
      unfold execute
      split_ifs
      · exact spec_confirmSubmitted (accounted job rfl)
      · exact spec_executePending job
    refine Holds.bind (executed.mono fun result _ _ => ?_)
    cases result with
    | none => exact trivial
    | some refundTx => exact trivial

/-- Every thread keeps the protocol. -/
theorem IsRefundThread.spec {thread : Signer Unit} (member : IsRefundThread thread) (world : World) :
    Spec tid thread anyhow world := by
  cases member with
  | idle => exact trivial
  | signer => exact spec_signerRun
  | enqueue refundId publicId input =>
    refine Holds.step (fun _ => True) (.const True) trivial ?_
    intro before safe _ choice answer after _ performed
    cases choice with
    | clock now =>
      simp only [perform] at performed
      split at performed
      next => 
        cases performed
        exact ⟨safe, .refl _, trivial⟩
      next decision accepted =>
        cases performed
        obtain ⟨kept, guar⟩ := (enqueueRefund_progress safe accepted).keeps_protocol safe
        exact ⟨kept, guar, trivial⟩
    | _ => cases performed
  | unpark reason =>
    refine Holds.step (fun _ => True) (.const True) trivial ?_
    intro before safe _ choice answer after admitted performed
    cases choice <;> cases performed
    obtain ⟨kept, guar⟩ := (unparkRefund_progress safe reason _ admitted).keeps_protocol safe
    exact ⟨kept, guar, trivial⟩
  | network =>
    refine Holds.step (fun _ => True) (.const True) trivial ?_
    intro before safe _ choice answer after _ performed
    cases choice with
    | close ledger =>
      simp only [perform] at performed
      split_ifs at performed with follows
      cases performed
      obtain ⟨kept, guar⟩ := safe.close follows
      exact ⟨kept, guar, trivial⟩
    | _ => cases performed

end Programs

/-! ## Whole runs -/

theorem safe_initial : Safe World.initial where
  wellFormed := ⟨fun _ same => (nomatch same), fun _ same => (nomatch same)⟩
  accounted _ member := nomatch member
  included _ member := nomatch member
  bounded _ member := nomatch member

/-- If no unpark discards a live envelope and no completion arrives for a confirmed refund, at most one
envelope of a payment's refund is ever included, over any interleaving and any network behaviour. -/
theorem refund_included_once (threads : ℕ → Signer Unit) (members : ∀ tid, IsRefundThread (threads tid))
    {after : refundMachine.Config} (run : Run Recoverable ⟨.initial, threads⟩ after) :
    ∀ left ∈ after.world.included, ∀ right ∈ after.world.included, left = right := by
  have start : refundProtocol.Checked Recoverable ⟨.initial, threads⟩ :=
    ⟨safe_initial, fun tid => (members tid).spec _⟩
  have safe : Safe after.world := (sound start run).1
  exact fun left first right second => safe.included_unique first second

/-- An enqueue, three signer runs, an operator and two ledger closes. -/
private def refundThreads : ℕ → Signer Unit
  | 0 => (call (.enqueue "refund" "public" timedOut)).run
  | 1 | 2 | 3 => signerRun
  | 4 => (call (.unpark none)).run
  | 5 | 6 => (call .closeLedger).run
  | _ => pure ()

private theorem refundThreads_members : ∀ tid, IsRefundThread (refundThreads tid)
  | 0 => .enqueue _ _ _
  | 1 | 2 | 3 => .signer
  | 4 => .unpark _
  | 5 | 6 => .network
  | _ + 7 => .idle

private def secondEnvelope : Envelope := ⟨2, 100, 1040, 1700, true⟩

/-- An undisturbed refund: broadcast, included, found and confirmed. -/
theorem refund_included_once_undisturbed : ∃ after, Run Recoverable ⟨.initial, refundThreads⟩ after ∧
    after.world.included = [firstEnvelope] ∧
    ∀ left ∈ after.world.included, ∀ right ∈ after.world.included, left = right := by
  obtain ⟨after, run, included⟩ := Config.exec_reaches Recoverable ⟨.initial, refundThreads⟩
    (landing 5 ++ [(1, .clock 0)])
    (fun world => world.included = [firstEnvelope] ∧
      world.record.map RefundRecord.state = some .confirmed) (by rfl)
  exact ⟨after, run, (of_decide_eq_true included).1, refund_included_once refundThreads refundThreads_members run⟩

/-- A rejected re-send parks a refund whose envelope can still be included; after an unpark a second
envelope is signed, and both land. -/
theorem refund_included_twice : ¬ ∀ threads : ℕ → Signer Unit, (∀ tid, IsRefundThread (threads tid)) →
    ∀ after, Run (unrestricted refundMachine) ⟨.initial, threads⟩ after →
      ∀ left ∈ after.world.included, ∀ right ∈ after.world.included, left = right := by
  intro once
  obtain ⟨after, run, included⟩ := Config.exec_reaches (unrestricted refundMachine) ⟨.initial, refundThreads⟩
    ((0, .clock 0) :: broadcastSteps 1 "a" 1 1000 ++
      [(2, .plain), (2, .retained 0 0), (2, .sent (.error (some "txInsufficientBalance"))), (2, .plain),
        (2, .clock 0), (4, .clock 0), (5, .close ⟨1045, 1, [(firstEnvelope, true)]⟩)] ++
      broadcastSteps 3 "b" 2 1100 ++ [(6, .close ⟨1105, 2, [(secondEnvelope, true)]⟩)])
    (fun world => firstEnvelope ∈ world.included ∧ secondEnvelope ∈ world.included) (by rfl)
  obtain ⟨first, second⟩ := of_decide_eq_true included
  exact absurd (once refundThreads refundThreads_members after run _ first _ second) (by decide)

end MppRouter.Refund
