import MppRouter.Refund.PaidOnce

/-! # Dead envelopes

A replacement of a submitted refund is signed on the strength of one answer that did not find the envelope. The router
and the signer each test that answer, in code of their own. The tests agree on every pair of close times, and an envelope
that passes is in no ledger that is closed or that can still be closed.
-/

namespace MppRouter.Refund

/-! ## The chain -/

/-- Closed ledgers, newest first: close times strictly increase, and a ledger includes an envelope only within its time
bounds. -/
inductive Chain : List Ledger → Prop
  | genesis : Chain []
  | close {ledger : Ledger} {ledgers : List Ledger} (closed : Chain ledgers)
      (later : latestCloseTime ledgers < ledger.closeTime)
      (timely : ∀ envelope ∈ ledger.transactions.map Prod.fst, envelope.validAt ledger.closeTime) :
      Chain (ledger :: ledgers)

section Chains

variable {ledgers later : List Ledger}

theorem Chain.timely (chain : Chain ledgers) : ∀ ledger ∈ ledgers,
    ∀ envelope ∈ ledger.transactions.map Prod.fst, envelope.validAt ledger.closeTime := by
  induction chain with
  | genesis =>
    rintro ledger ⟨⟩
  | close closed later timely ih =>
    intro ledger member
    rcases List.mem_cons.mp member with rfl | earlier
    · exact timely
    · exact ih ledger earlier

/-- A ledger that closes after others closes later than all of them. -/
theorem Chain.latest_lt (chain : Chain (later ++ ledgers)) : ∀ ledger ∈ later,
    latestCloseTime ledgers < ledger.closeTime := by
  induction later with
  | nil =>
    rintro ledger ⟨⟩
  | cons newest rest ih =>
    cases chain with
    | close closed after timely =>
      intro ledger member
      rcases List.mem_cons.mp member with rfl | earlier
      · cases rest with
        | nil => exact after
        | cons next rest => exact (ih closed next List.mem_cons_self).trans after
      · exact ih closed ledger earlier

theorem Envelope.Outlived.never_included {envelope : Envelope} {oldest latest : ℕ}
    (outlived : envelope.Outlived latest oldest) (chain : Chain (later ++ ledgers))
    (closed : latest ≤ latestCloseTime ledgers)
    (missing : (answerFor ledgers oldest latest envelope.hash).status = .notFound) :
    envelope ∉ includedIn (later ++ ledgers) := by
  obtain ⟨-, bounded, late, -, covered⟩ := outlived
  intro member
  obtain ⟨ledger, listed, contains⟩ := mem_includedIn.mp member
  obtain ⟨started, unbounded | ended⟩ := chain.timely ledger listed envelope contains
  · omega
  rcases List.mem_append.mp listed with future | past
  · have after := chain.latest_lt ledger future
    omega
  · exact absent_of_notFound missing ledger past (by omega) (by omega) contains

end Chains

/-- The two copies agree on all integer close times. An envelope that passes, on the close times of one answer that did
not find it, is in no ledger that is closed before or after that answer. -/
theorem dead_envelope_test (envelope : Envelope) :
    (∀ latest oldest : ℤ, ConfirmSubmitted.expired envelope latest oldest =
      StellarProof.isProvablyDeadEnvelope envelope latest oldest) ∧
    ∀ (ledgers later : List Ledger) (oldest latest : ℕ), Chain (later ++ ledgers) → latest ≤ latestCloseTime ledgers →
      let answer := answerFor ledgers oldest latest envelope.hash
      answer.status = .notFound →
      StellarProof.isProvablyDeadEnvelope envelope answer.latestLedgerCloseTime answer.oldestLedgerCloseTime = true →
      envelope ∉ includedIn (later ++ ledgers) := by
  constructor
  · intro latest oldest
    rw [Bool.eq_iff_iff, ConfirmSubmitted.expired_iff, StellarProof.isProvablyDeadEnvelope_iff]
  · intro ledgers later oldest latest chain closed answer missing dead
    obtain ⟨ofLatest, ofOldest⟩ := answerFor_times ledgers oldest latest envelope.hash
    rw [ofLatest, ofOldest, StellarProof.isProvablyDeadEnvelope_iff] at dead
    exact dead.never_included chain closed missing

/-- An envelope valid from 10 to 20, not found by a node that retains the ledgers of 8 and 21. -/
theorem dead_envelope_test_valid_to_20 :
    (⟨1, 100, 10, 20, true⟩ : Envelope) ∉ includedIn ([⟨30, 3, []⟩] ++ [⟨21, 2, []⟩, ⟨8, 1, []⟩]) := by
  have chain : Chain ([⟨30, 3, []⟩] ++ [⟨21, 2, []⟩, ⟨8, 1, []⟩]) := by
    apply Chain.close
    · apply Chain.close
      · apply Chain.close .genesis <;> decide
      · decide
      · decide
    · decide
    · decide
  exact (dead_envelope_test ⟨1, 100, 10, 20, true⟩).2 _ _ 8 21 chain (by decide) (by decide) (by decide)

end MppRouter.Refund
