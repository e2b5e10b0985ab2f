import MppRouter.Routes.Router

/-! # What one step does to the partner keys

Only a commit books a mutation, and it does so on a record that does not list the key and can absorb the
delta. Every other step changes at most one record, and there only the fields of its own operation.
-/

namespace MppRouter.Routes

open Mpp Function PartnerStore

/-- The partner actions that commit no mutation. -/
def PartnerAction.quiet : PartnerAction → Bool
  | .commit _ _ _ => false
  | _ => true

/-- The partner record lists the key as applied. -/
def PartnerRecord.remembers (partner : PartnerRecord) (key : LedgerKey) : Bool :=
  partner.applied.any fun applied => applied.k = key

/-! ## Quiet steps -/

/-- What a step that commits nothing does to one partner record. -/
inductive PartnerChange (partnerId : String) (now : ℕ) (action : PartnerAction) :
    Option PartnerRecord → Option PartnerRecord → Prop
  | same (current : Option PartnerRecord) : PartnerChange partnerId now action current current
  | created {email : String} (performs : action = .createPartner partnerId email) :
      PartnerChange partnerId now action none (some { id := partnerId, email, createdAt := now })
  | forgot {key : LedgerKey} (performs : action = .removeApplied partnerId key) (partner : PartnerRecord) :
      PartnerChange partnerId now action (some partner)
        (some { partner with applied := partner.applied.eraseP fun applied => applied.k = key })
  | confirmed {opId : Uuid} {indexEntry : CouponIndexEntry}
      (performs : action = .confirmPendingIssue partnerId opId indexEntry) (partner : PartnerRecord)
      (couponIndex : List CouponIndexEntry) :
      PartnerChange partnerId now action (some partner) (some { partner with
        pendingIssues := partner.pendingIssues.eraseP fun issue => issue.opId = opId, couponIndex })
  | noted {refundOpId : Uuid} {code : String} {amountAtomic : ℤ} {kind : LedgerKind}
      (performs : action = .recordPendingRefund partnerId refundOpId code amountAtomic kind) (partner : PartnerRecord) :
      PartnerChange partnerId now action (some partner) (some { partner with
        pendingRefunds := ⟨refundOpId, code, amountAtomic, kind, now⟩ :: partner.pendingRefunds })
  | dropped {code : String} (performs : action = .dropPendingRefund partnerId code) (partner : PartnerRecord) :
      PartnerChange partnerId now action (some partner) (some { partner with
        pendingRefunds := partner.pendingRefunds.eraseP fun refund => refund.code = code })
  | status {status : PartnerStatus} (performs : action = .setStatus partnerId status) (partner : PartnerRecord) :
      PartnerChange partnerId now action (some partner) (some { partner with status })

section Changes

variable {partnerId : String} {now : ℕ} {action : PartnerAction}

/-- Replacing one record changes no other. -/
theorem change_update {store : PartnerStore} {partner : String} {next : Option PartnerRecord}
    (change : PartnerChange partner now action (store.partners partner) next) :
    PartnerChange partnerId now action (store.partners partnerId)
      (update store.partners partner next partnerId) := by
  by_cases here : partnerId = partner
  · subst here
    rw [update_self]
    exact change
  · rw [update_of_ne here]
    exact .same _

theorem recordPendingRefund_change {refundOpId : Uuid} {code : String} {amountAtomic : ℤ} {kind : LedgerKind}
    {current : Option PartnerRecord} {decision : Decision PartnerRecord Unit}
    (performs : action = .recordPendingRefund partnerId refundOpId code amountAtomic kind)
    (accepted : recordPendingRefund refundOpId code amountAtomic kind now current = .ok decision) :
    PartnerChange partnerId now action current (decision.after current) := by
  cases current with
  | none => cases accepted
  | some partner =>
    simp only [recordPendingRefund] at accepted
    split_ifs at accepted
    · cases accepted
      exact .same _
    · cases accepted
      exact .noted performs partner

theorem quiet_change (tid now : ℕ) (quiet : action.quiet = true) (store : PartnerStore) (partnerId : String) :
    PartnerChange partnerId now action (store.partners partnerId)
      ((action.perform tid now store).2.partners partnerId) := by
  cases action with
  | commit partner mutation mutate => cases quiet
  | read partner => exact .same _
  | readIdem partner key => exact .same _
  | claimIdem partner key =>
    simp only [PartnerAction.perform]
    split_ifs <;> exact .same _
  | settleIdem partner key entry couponCode => exact .same _
  | releaseIdem partner key => exact .same _
  | removeApplied partner key =>
    apply change_update
    cases store.partners partner with
    | none => exact .same _
    | some record =>
      simp only [removeApplied]
      split_ifs
      · exact .forgot rfl record
      · exact .same _
  | writeBody entry draft =>
    simp only [PartnerAction.perform, writeBody]
    split_ifs <;> exact .same _
  | confirmPendingIssue partner opId indexEntry =>
    apply change_update
    cases store.partners partner with
    | none => exact .same _
    | some record =>
      simp only [confirmPendingIssue]
      by_cases open_ : (record.pendingIssues.any fun issue => issue.opId = opId) = true
      · rw [if_pos open_]
        exact .confirmed rfl record _
      · rw [if_neg open_]
        exact .same _
  | recordPendingRefund partner refundOpId code amountAtomic kind =>
    simp only [PartnerAction.perform, tryUpdate]
    split
    next => exact .same _
    next decision accepted => exact change_update (recordPendingRefund_change rfl accepted)
  | dropPendingRefund partner code =>
    apply change_update
    cases store.partners partner with
    | none => exact .same _
    | some record =>
      simp only [dropPendingRefund]
      split_ifs
      · exact .dropped rfl record
      · exact .same _
  | claimEmail email candidateId => exact .same _
  | createPartner partner email =>
    apply change_update
    cases store.partners partner with
    | none => exact .created rfl
    | some record => exact .same _
  | setStatus partner status =>
    apply change_update
    cases store.partners partner with
    | none => exact .same _
    | some record =>
      simp only [setPartnerStatus]
      split_ifs
      · exact .same _
      · exact .status rfl record

end Changes

variable {action : PartnerAction}

theorem quiet_commits (tid now : ℕ) (quiet : action.quiet = true) (store : PartnerStore) :
    (action.perform tid now store).2.commits = store.commits := by
  cases action with
  | commit partner mutation mutate => cases quiet
  | claimIdem partner key =>
    simp only [PartnerAction.perform]
    split_ifs <;> rfl
  | writeBody entry draft =>
    simp only [PartnerAction.perform, writeBody]
    split_ifs <;> rfl
  | recordPendingRefund partner refundOpId code amountAtomic kind =>
    simp only [PartnerAction.perform, tryUpdate]
    split <;> rfl
  | _ => rfl

/-- Only a commit ends a claim. -/
theorem quiet_claimants (tid now : ℕ) (quiet : action.quiet = true) (store : PartnerStore) :
    store.claimants ⊆ (action.perform tid now store).2.claimants := by
  cases action with
  | commit partner mutation mutate => cases quiet
  | claimIdem partner key =>
    simp only [PartnerAction.perform]
    split_ifs
    · exact List.subset_cons_self _ _
    · exact List.Subset.refl _
  | writeBody entry draft =>
    simp only [PartnerAction.perform, writeBody]
    split_ifs <;> exact List.Subset.refl _
  | recordPendingRefund partner refundOpId code amountAtomic kind =>
    simp only [PartnerAction.perform, tryUpdate]
    split <;> exact List.Subset.refl _
  | _ => exact List.Subset.refl _

/-! ## Body writes -/

section WriteBody

variable (store : PartnerStore) (entry : LedgerEntry) (draft : Bool)

@[simp] theorem PartnerStore.writeBody_partners :
    (store.writeBody entry draft).partners = store.partners := by
  unfold writeBody
  split_ifs <;> rfl

@[simp] theorem PartnerStore.writeBody_idem :
    (store.writeBody entry draft).idem = store.idem := by
  unfold writeBody
  split_ifs <;> rfl

@[simp] theorem PartnerStore.writeBody_commits :
    (store.writeBody entry draft).commits = store.commits := by
  unfold writeBody
  split_ifs <;> rfl

/-- A body write replaces one body at most. -/
theorem PartnerStore.writeBody_bodies (partnerId : String) (id : Uuid) :
    (store.writeBody entry draft).bodies partnerId id =
      if partnerId = entry.partnerId ∧ id = entry.id ∧ ¬ (draft ∧ (store.bodies entry.partnerId entry.id).isSome)
      then some entry else store.bodies partnerId id := by
  unfold writeBody
  split_ifs with kept ours ours
  · exact absurd kept ours.2.2
  · rfl
  · obtain ⟨rfl, rfl, -⟩ := ours
    simp only [update_self]
  · by_cases here : partnerId = entry.partnerId
    · subst here
      have other : id ≠ entry.id := fun same => ours ⟨rfl, same, kept⟩
      simp only [update_self, update_of_ne other]
    · simp only [update_of_ne here]

end WriteBody

/-! ## Commits -/

/-- The partner record with a mutation booked on it, before the caller's own part. -/
def PartnerRecord.booked (record : PartnerRecord) (mutation : LedgerMutation) : PartnerRecord :=
  { record with
    balanceAtomic := record.balanceAtomic + mutation.draft.deltaAtomic
    ledgerIndex := pushBounded record.ledgerIndex mutation.draft.id maxLedgerIndex
    applied := pushBounded record.applied
      ⟨mutation.idempotencyKey, mutation.draft.id, mutation.couponCode⟩ maxIdemKeys }

/-- The drafted entry with the balance it led to. -/
def LedgerMutation.settled (mutation : LedgerMutation) (record : PartnerRecord) : LedgerEntry :=
  { mutation.draft with balanceAfterAtomic := some (record.balanceAtomic + mutation.draft.deltaAtomic) }

/-- The caller's part of a booking: what becomes of the unsettled operations, and nothing else. -/
theorem Mutate.apply_eq {mutate : Mutate} {now : ℕ} {partner next : PartnerRecord}
    (applied : mutate.apply now partner = .ok next) :
    next = { partner with
      pendingIssues := match mutate with
        | .recordIssue opId clientKey code amountAtomic =>
          ⟨opId, clientKey, code, amountAtomic, now⟩ :: partner.pendingIssues
        | .dropIssue opId => partner.pendingIssues.eraseP fun issue => issue.opId = opId
        | _ => partner.pendingIssues
      pendingRefunds := match mutate with
        | .dropRefund code => partner.pendingRefunds.eraseP fun refund => refund.code = code
        | _ => partner.pendingRefunds } := by
  cases mutate with
  | recordIssue opId clientKey code amountAtomic =>
    simp only [Mutate.apply] at applied
    split_ifs at applied
    cases applied
    rfl
  | _ =>
    cases applied
    rfl

theorem commitLedger_some (mutation : LedgerMutation) (mutate : Mutate) (now : ℕ) (record : PartnerRecord) :
    commitLedger mutation mutate now (some record) =
      if record.remembers mutation.idempotencyKey then .ok (.noop (record, none))
      else if record.balanceAtomic + mutation.draft.deltaAtomic < 0 then .error .insufficientBalance
      else match mutate.apply now (record.booked mutation) with
        | .error failure => .error failure
        | .ok next => .ok (.set next (next, some (mutation.settled record))) := rfl

/-- A commit books nothing, or it books the drafted entry on a record that does not list its key and can
absorb it. -/
theorem commit_cases (tid now : ℕ) (partner : String) (mutation : LedgerMutation) (mutate : Mutate)
    (store : PartnerStore) :
    ((∀ answer entry, (PartnerAction.perform tid now (.commit partner mutation mutate) store).1 ≠
        .ok (answer, some entry)) ∧
      (PartnerAction.perform tid now (.commit partner mutation mutate) store).2 =
        { store with claimants := store.claimants.filter fun claim =>
          claim ≠ (tid, partner, mutation.idempotencyKey) }) ∨
    ∃ record next, store.partners partner = some record ∧ record.remembers mutation.idempotencyKey = false ∧
      0 ≤ record.balanceAtomic + mutation.draft.deltaAtomic ∧ mutate.apply now (record.booked mutation) = .ok next ∧
      PartnerAction.perform tid now (.commit partner mutation mutate) store =
        (.ok (next, some (mutation.settled record)),
          { store with
            partners := update store.partners partner (some next)
            commits := ⟨partner, mutation.idempotencyKey, mutation.settled record, mutate⟩ :: store.commits
            claimants := store.claimants.filter fun claim => claim ≠ (tid, partner, mutation.idempotencyKey) }) := by
  cases found : store.partners partner with
  | none =>
    left
    simp only [PartnerAction.perform, tryUpdate, found, commitLedger]
    exact ⟨fun _ _ same => (nomatch same), trivial⟩
  | some record =>
    have decided := commitLedger_some mutation mutate now record
    by_cases known : record.remembers mutation.idempotencyKey = true
    · left
      rw [if_pos known] at decided
      have unchanged : update store.partners partner (some record) = store.partners := by
        rw [← found, update_eq_self]
      simp only [PartnerAction.perform, tryUpdate, found, decided, Decision.result,
        Decision.after_noop, unchanged]
      refine ⟨fun answer entry same => ?_, trivial⟩
      cases Except.ok.inj same
    · rw [if_neg known] at decided
      by_cases negative : record.balanceAtomic + mutation.draft.deltaAtomic < 0
      · left
        rw [if_pos negative] at decided
        simp only [PartnerAction.perform, tryUpdate, found, decided]
        exact ⟨fun _ _ same => (nomatch same), trivial⟩
      · rw [if_neg negative] at decided
        cases applied : mutate.apply now (record.booked mutation) with
        | error failure =>
          left
          rw [applied] at decided
          simp only [PartnerAction.perform, tryUpdate, found, decided]
          exact ⟨fun _ _ same => (nomatch same), trivial⟩
        | ok next =>
          right
          rw [applied] at decided
          refine ⟨record, next, rfl, Bool.eq_false_iff.mpr known, by omega, applied, ?_⟩
          simp only [PartnerAction.perform, tryUpdate, found, decided, Decision.result,
            Decision.after_set]

/-- What a record lists after a booking: the key it was booked under, and what did not fall off the end. -/
theorem PartnerRecord.remembers_booked {record next : PartnerRecord} {mutation : LedgerMutation} {mutate : Mutate}
    {now : ℕ} (applied : mutate.apply now (record.booked mutation) = .ok next) (key : LedgerKey) :
    next.remembers key = (decide (mutation.idempotencyKey = key) ||
      (record.applied.take (maxIdemKeys - 1)).any fun applied => applied.k = key) := by
  rw [Mutate.apply_eq applied]
  exact List.any_cons

theorem bodies_kept (tid now : ℕ) (other : ∀ entry draft, action ≠ .writeBody entry draft)
    (store : PartnerStore) : (action.perform tid now store).2.bodies = store.bodies := by
  cases action with
  | writeBody entry draft => exact absurd rfl (other entry draft)
  | claimIdem partner key =>
    simp only [PartnerAction.perform]
    split_ifs <;> rfl
  | commit partner mutation mutate =>
    obtain ⟨-, same⟩ | ⟨record, next, -, -, -, -, same⟩ := commit_cases tid now partner mutation mutate store
    · rw [same]
    · rw [same]
  | recordPendingRefund partner refundOpId code amountAtomic kind =>
    simp only [PartnerAction.perform, tryUpdate]
    split <;> rfl
  | _ => rfl

/-- Nobody ends the claim of another request. -/
theorem claimants_kept (tid now : ℕ) (action : PartnerAction) (store : PartnerStore) {claim : ℕ × String × LedgerKey}
    (member : claim ∈ store.claimants) (foreign : claim.1 ≠ tid) :
    claim ∈ (action.perform tid now store).2.claimants := by
  cases action with
  | commit partner mutation mutate =>
    have stays : claim ∈ store.claimants.filter fun claim => claim ≠ (tid, partner, mutation.idempotencyKey) := by
      refine List.mem_filter.mpr ⟨member, decide_eq_true fun same => foreign ?_⟩
      rw [same]
    obtain ⟨-, same⟩ | ⟨record, next, -, -, -, -, same⟩ := commit_cases tid now partner mutation mutate store
    · rw [same]
      exact stays
    · rw [same]
      exact stays
  | _ => exact quiet_claimants tid now (by rfl) store member

end MppRouter.Routes
