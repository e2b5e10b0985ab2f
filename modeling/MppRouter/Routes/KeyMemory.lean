import MppRouter.Routes.PartnerSteps

/-! # What remembers an applied idempotency key

A ledger mutation is remembered in two places: the applied list of the partner record, which is bounded,
and the durable claim of its key, which a later request may take over while it is not done. As long as one
of the two is in force, no commit under the key goes through.
-/

namespace MppRouter.Routes

open Mpp Function List PartnerStore

namespace PartnerStore

variable (store : PartnerStore) (partnerId : String) (key : LedgerKey)

/-- The partner record lists the key as applied. -/
def lists : Bool := (store.partners partnerId).any fun partner => partner.remembers key

/-- The record would still list the key after one more mutation under another key. -/
def listsBelowEnd : Bool :=
  (store.partners partnerId).any fun partner =>
    (partner.applied.take (maxIdemKeys - 1)).any fun applied => applied.k = key

/-- The durable claim is done, and no request that took it earlier is still on the way to its commit. -/
def concluded : Bool :=
  (store.idem partnerId key).any (fun claim => claim.state = .done) ∧
    store.claimants.all fun claim => claim.2 ≠ (partnerId, key)

/-- The step takes the key out of one memory while the other one is not in force. -/
def forgets (action : PartnerAction) : Bool :=
  match action with
  | .releaseIdem partner other => partner = partnerId ∧ other = key ∧ ¬ store.lists partnerId key
  | .removeApplied partner other => partner = partnerId ∧ other = key ∧ ¬ store.concluded partnerId key
  | .commit partner mutation _ =>
    partner = partnerId ∧ mutation.idempotencyKey ≠ key ∧ ¬ store.listsBelowEnd partnerId key ∧
      ¬ store.concluded partnerId key
  | _ => false

end PartnerStore

/-- One of the two memories of a key is in force. -/
def Remembered (partnerId : String) (key : LedgerKey) (store : PartnerStore) : Prop :=
  store.lists partnerId key = true ∨ store.concluded partnerId key = true

section Steps

variable {partnerId : String} {key : LedgerKey} {store after : PartnerStore}

/-! ### The durable claim -/

theorem PartnerStore.concluded_iff : store.concluded partnerId key = true ↔
    (∃ claim, store.idem partnerId key = some claim ∧ claim.state = .done) ∧
      ∀ claim ∈ store.claimants, claim.2 ≠ (partnerId, key) := by
  simp only [concluded, decide_eq_true_eq, Option.any_eq_true, all_eq_true]

/-- A concluded key stays concluded while claimants leave. -/
theorem PartnerStore.concluded_of_subset (concluded : store.concluded partnerId key = true)
    (idem : after.idem = store.idem) (claimants : after.claimants ⊆ store.claimants) :
    after.concluded partnerId key = true := by
  obtain ⟨done, nobody⟩ := concluded_iff.mp concluded
  refine concluded_iff.mpr ⟨?_, fun claim member => nobody claim (claimants member)⟩
  rw [idem]
  exact done

theorem PartnerStore.updateIdem_idem {R : Type} (partner : String) (other : LedgerKey)
    (fn : Option IdemClaim → Decision IdemClaim R) :
    (store.updateIdem partner other fn).2.idem partnerId key =
      if partner = partnerId ∧ other = key then (fn (store.idem partnerId key)).after (store.idem partnerId key)
      else store.idem partnerId key := by
  simp only [updateIdem]
  split_ifs with ours
  · obtain ⟨rfl, rfl⟩ := ours
    rw [update_self, update_self]
  · by_cases same : partnerId = partner
    · subst same
      rw [update_self, update_of_ne fun key => ours ⟨rfl, key.symm⟩]
    · rw [update_of_ne same]

/-- A claim that is done is refused, so the refused request does not count as a claimant. -/
theorem claimIdem_done {now : ℕ} {claim : IdemClaim} (done : claim.state = .done) :
    claimIdem now (some claim) = .noop false := by
  simp only [claimIdem]
  exact if_pos (.inl done)

theorem settleIdem_done {now : ℕ} {entry : Option Uuid} {couponCode : Option String} {claim : IdemClaim}
    (done : claim.state = .done) : settleIdem now entry couponCode (some claim) = .noop () := by
  simp only [settleIdem, Option.map_some, done, if_true]

section Known

variable (known : Remembered partnerId key store) (tid now : ℕ) (partner : String)

include known

theorem Remembered.claimIdem (other : LedgerKey) :
    Remembered partnerId key (PartnerAction.perform tid now (.claimIdem partner other) store).2 := by
  simp only [PartnerAction.perform]
  rcases known with lists | concluded
  · left
    split_ifs <;> exact lists
  · right
    obtain ⟨⟨claim, found, done⟩, nobody⟩ := PartnerStore.concluded_iff.mp concluded
    by_cases ours : partner = partnerId ∧ other = key
    · obtain ⟨rfl, rfl⟩ := ours
      have refused : (store.updateIdem partner other (Routes.claimIdem now)).1 = false := by
        simp only [PartnerStore.updateIdem, found, claimIdem_done done, Decision.result]
      rw [if_neg (by simp [refused])]
      refine PartnerStore.concluded_iff.mpr ⟨⟨claim, ?_, done⟩, nobody⟩
      rw [PartnerStore.updateIdem_idem, if_pos ⟨rfl, rfl⟩, found, claimIdem_done done, Decision.after_noop]
    · have kept : (store.updateIdem partner other (Routes.claimIdem now)).2.idem partnerId key = some claim := by
        rw [PartnerStore.updateIdem_idem, if_neg ours, found]
      have concludes : ∀ claimants, (∀ claim ∈ claimants, claim.2 ≠ (partnerId, key)) →
          PartnerStore.concluded { (store.updateIdem partner other (Routes.claimIdem now)).2 with claimants }
            partnerId key = true :=
        fun claimants free => PartnerStore.concluded_iff.mpr ⟨⟨claim, kept, done⟩, free⟩
      split_ifs
      · refine concludes _ fun another member => ?_
        rcases mem_cons.mp member with rfl | old
        · exact fun same => ours (Prod.mk.inj same)
        · exact nobody another old
      · exact concludes _ nobody

theorem Remembered.settleIdem (other : LedgerKey) (entry : Option Uuid) (couponCode : Option String) :
    Remembered partnerId key
      (PartnerAction.perform tid now (.settleIdem partner other entry couponCode) store).2 := by
  refine known.imp id fun concluded => ?_
  obtain ⟨⟨claim, found, done⟩, nobody⟩ := concluded_iff.mp concluded
  refine concluded_iff.mpr ⟨⟨claim, ?_, done⟩, nobody⟩
  simp only [PartnerAction.perform]
  rw [updateIdem_idem]
  split_ifs with ours
  · rw [found, settleIdem_done done, Decision.after_noop]
  · exact found

/-- Resetting the claim is harmless while the record lists the key. -/
theorem Remembered.releaseIdem (other : LedgerKey)
    (kept : store.forgets partnerId key (.releaseIdem partner other) = false) :
    Remembered partnerId key (PartnerAction.perform tid now (.releaseIdem partner other) store).2 := by
  simp only [forgets, decide_eq_false_iff_not] at kept
  by_cases ours : partner = partnerId ∧ other = key
  · exact .inl (not_not.mp fun unlisted => kept ⟨ours.1, ours.2, unlisted⟩)
  · refine known.imp id fun concluded => ?_
    obtain ⟨⟨claim, found, done⟩, nobody⟩ := concluded_iff.mp concluded
    refine concluded_iff.mpr ⟨⟨claim, ?_, done⟩, nobody⟩
    simp only [PartnerAction.perform]
    rw [updateIdem_idem, if_neg ours, found]

end Known

/-! ### The partner record -/

/-- Removing a key keeps the others. -/
theorem remembers_eraseP {applied : List AppliedKey} {other : LedgerKey} (distinct : key ≠ other) :
    ((applied.eraseP fun entry => entry.k = key).any fun entry => entry.k = other) =
      applied.any fun entry => entry.k = other := by
  rw [Bool.eq_iff_iff, any_eq_true, any_eq_true]
  refine exists_congr fun entry => and_congr_left fun listed => mem_eraseP_of_neg ?_
  rw [of_decide_eq_true listed, decide_eq_true_eq]
  exact distinct.symm

/-- Changing the records otherwise than by a commit, and keeping the key listed. -/
theorem Remembered.quiet (known : Remembered partnerId key store) (tid now : ℕ) {action : PartnerAction}
    (quiet : action.quiet = true) (idem : (action.perform tid now store).2.idem = store.idem)
    (claimants : (action.perform tid now store).2.claimants ⊆ store.claimants)
    (kept : store.forgets partnerId key action = false) :
    Remembered partnerId key (action.perform tid now store).2 := by
  rcases known with lists | concluded
  · have change := quiet_change tid now quiet store partnerId
    obtain ⟨record, found, listed⟩ := (Option.any_eq_true _ _).mp lists
    rw [found] at change
    have lists_of : ∀ next, (action.perform tid now store).2.partners partnerId = some next →
        next.remembers key = true → Remembered partnerId key (action.perform tid now store).2 := by
      intro next stored remembers
      left
      simp only [PartnerStore.lists, stored, Option.any_some, remembers]
    generalize after : (action.perform tid now store).2.partners partnerId = next at change
    cases change with
    | forgot performs =>
      rename_i other
      by_cases own : other = key
      · right
        subst performs
        simp only [forgets, decide_eq_false_iff_not] at kept
        have concluded : store.concluded partnerId key = true :=
          not_not.mp fun open_ => kept ⟨trivial, own, open_⟩
        exact concluded_of_subset concluded idem claimants
      · apply lists_of _ after
        rw [PartnerRecord.remembers, remembers_eraseP own]
        exact listed
    | _ => exact lists_of _ after listed
  · exact .inr (concluded_of_subset concluded idem claimants)

/-! ### Commits -/

/-- A commit of another key that leaves one of the memories in force. -/
theorem Remembered.commit (known : Remembered partnerId key store) (tid now : ℕ) (partner : String)
    (mutation : LedgerMutation) (mutate : Mutate)
    (kept : store.forgets partnerId key (.commit partner mutation mutate) = false) :
    Remembered partnerId key (PartnerAction.perform tid now (.commit partner mutation mutate) store).2 := by
  have fewer : (store.claimants.filter fun claim => claim ≠ (tid, partner, mutation.idempotencyKey)) ⊆
      store.claimants := filter_sublist.subset
  obtain ⟨-, same⟩ | ⟨record, next, found, -, -, applied, same⟩ :=
    commit_cases tid now partner mutation mutate store
  · rw [same]
    rcases known with lists | concluded
    · exact .inl lists
    · exact .inr (PartnerStore.concluded_of_subset concluded rfl fewer)
  · rw [same]
    rcases known with lists | concluded
    · by_cases here : partner = partnerId
      · subst here
        have listed := PartnerRecord.remembers_booked applied key
        simp only [PartnerStore.forgets, decide_eq_false_iff_not] at kept
        by_cases own : mutation.idempotencyKey = key
        · left
          simp only [PartnerStore.lists, update_self, Option.any_some, listed, own, decide_true,
            Bool.true_or]
        · by_cases below : store.listsBelowEnd partner key = true
          · left
            simp only [PartnerStore.listsBelowEnd, found, Option.any_some] at below
            simp only [PartnerStore.lists, update_self, Option.any_some, listed, below, Bool.or_true]
          · right
            have concluded : store.concluded partner key = true :=
              not_not.mp fun open_ => kept ⟨trivial, own, below, open_⟩
            exact PartnerStore.concluded_of_subset concluded rfl fewer
      · left
        simp only [PartnerStore.lists]
        rw [update_of_ne (Ne.symm here)]
        exact lists
    · exact .inr (PartnerStore.concluded_of_subset concluded rfl fewer)

theorem Remembered.step (known : Remembered partnerId key store) (tid now : ℕ) (action : PartnerAction)
    (kept : store.forgets partnerId key action = false) : Remembered partnerId key (action.perform tid now store).2 := by
  cases action with
  | claimIdem partner other => exact known.claimIdem tid now partner other
  | settleIdem partner other entry couponCode => exact known.settleIdem tid now partner other entry couponCode
  | releaseIdem partner other => exact known.releaseIdem tid now partner other kept
  | commit partner mutation mutate => exact known.commit tid now partner mutation mutate kept
  | writeBody entry draft =>
    apply known.quiet tid now (by rfl) _ _ kept
    · exact writeBody_idem store entry draft
    · simp only [PartnerAction.perform, writeBody]
      split_ifs <;> exact List.Subset.refl _
  | recordPendingRefund partner refundOpId code amountAtomic kind =>
    apply known.quiet tid now (by rfl) _ _ kept
    · simp only [PartnerAction.perform, tryUpdate]
      split <;> rfl
    · simp only [PartnerAction.perform, tryUpdate]
      split <;> exact List.Subset.refl _
  | _ => exact known.quiet tid now (by rfl) rfl (List.Subset.refl _) kept

/-- A request on its way to the commit of a remembered key finds it listed. -/
theorem Remembered.lists_of_claimant (known : Remembered partnerId key store) {tid : ℕ}
    (claimed : (tid, partnerId, key) ∈ store.claimants) : store.lists partnerId key = true := by
  rcases known with lists | concluded
  · exact lists
  · exact absurd rfl ((concluded_iff.mp concluded).2 _ claimed)

end Steps

end MppRouter.Routes
