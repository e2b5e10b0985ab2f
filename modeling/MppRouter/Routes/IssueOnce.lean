import MppRouter.Routes.KeyMemory
import MppRouter.Routes.RouterSpec

/-! # One issue for a client key

The debit of an issue is remembered in two places: the applied list of the partner record and the
durable claim of its key. As long as a debit is not returned one of the two has to turn the next
request away at its commit. Forgetting the key in both at once reopens it under the standing debit.
-/

namespace MppRouter.Routes

open Concurrent Machine Mpp List PartnerStore

namespace PartnerStore

variable (store : PartnerStore) (partnerId clientKey : String)

/-- The holds debited for a client key. -/
def holds : ℕ := store.commits.countP fun commit => commit.partnerId = partnerId ∧ commit.key = .issue clientKey

/-- The ops of these holds, newest first. -/
def opened : List Uuid :=
  store.commits.filterMap fun commit =>
    if commit.partnerId = partnerId ∧ commit.key = .issue clientKey then commit.mutate.opened else none

/-- The credits that return these holds. -/
def refunds : ℕ :=
  store.commits.countP fun commit => (store.opened partnerId clientKey).any fun opId => commit.key = .issueRefund opId

/-- The debit of an op was returned. -/
def refunded (opId : Uuid) : Bool := store.commits.any fun commit => commit.key = .issueRefund opId

/-- The ops whose debit stands. -/
def outstanding : List Uuid := (store.opened partnerId clientKey).filter fun opId => ¬ store.refunded opId

end PartnerStore

/-- A live coupon that was created for the client key. -/
def World.IssuedFor (world : World) (partnerId clientKey code : String) : Prop :=
  ∃ record, world.coupons.records code = some record ∧ record.tombstone = false ∧
    ∃ opId ∈ world.partners.opened partnerId clientKey, record.issueLedgerId = some opId

/-- At most one hold of the client key stands, and at most one live coupon was created for it. -/
structure World.IssuedOnce (world : World) (partnerId clientKey : String) : Prop where
  holds : world.partners.holds partnerId clientKey ≤ world.partners.refunds partnerId clientKey + 1
  coupon : ∀ left right, world.IssuedFor partnerId clientKey left → world.IssuedFor partnerId clientKey right →
    left = right

/-- A step that forgets the key under a standing hold leaves the other memory of it in force. -/
def guards (partnerId clientKey : String) (action : Action) (store : PartnerStore) : Bool :=
  if store.outstanding partnerId clientKey = [] then true
  else match action with
    | .partner (.releaseIdem partner key) =>
      partner ≠ partnerId ∨ key ≠ .issue clientKey ∨ store.lists partnerId (.issue clientKey)
    | .partner (.removeApplied partner key) =>
      partner ≠ partnerId ∨ key ≠ .issue clientKey ∨ ¬ store.lists partnerId (.issue clientKey) ∨
        store.concluded partnerId (.issue clientKey)
    | .partner (.commit partner mutation _) =>
      partner ≠ partnerId ∨ mutation.idempotencyKey = .issue clientKey ∨ ¬ store.lists partnerId (.issue clientKey) ∨
        store.listsBelowEnd partnerId (.issue clientKey) ∨ store.concluded partnerId (.issue clientKey)
    | _ => true

/-- No step takes the key out of both memories while a hold of it stands. -/
abbrev Guarded (partnerId clientKey : String) : routerMachine.Admits :=
  fun _ action _ world => guards partnerId clientKey action world.partners = true

/-! ## The invariant -/

/-- At most one hold of the key stands, and a memory of it is in force. -/
structure OneHold (partnerId clientKey : String) (store : PartnerStore) : Prop where
  unique : ∀ left ∈ store.outstanding partnerId clientKey, ∀ right ∈ store.outstanding partnerId clientKey,
    left = right
  shielded : store.outstanding partnerId clientKey ≠ [] → Remembered partnerId (.issue clientKey) store

section Steps

variable {partnerId clientKey : String} {store after : PartnerStore}

theorem PartnerStore.outstanding_congr (commits : after.commits = store.commits) :
    after.outstanding partnerId clientKey = store.outstanding partnerId clientKey := by
  have opened : after.opened partnerId clientKey = store.opened partnerId clientKey := by
    rw [opened, commits]
    rfl
  have refunded : after.refunded = store.refunded := by
    funext opId
    rw [refunded, commits]
    rfl
  rw [outstanding, opened, refunded]
  rfl

/-- A guarded step under a standing hold forgets nothing that is the last memory of the key. -/
theorem Remembered.not_forgets (known : Remembered partnerId (.issue clientKey) store) {action : PartnerAction}
    (standing : store.outstanding partnerId clientKey ≠ [])
    (guarded : guards partnerId clientKey (.partner action) store = true) :
    store.forgets partnerId (.issue clientKey) action = false := by
  simp only [guards, if_neg standing] at guarded
  cases action with
  | releaseIdem partner key =>
    simp only [decide_eq_true_eq] at guarded
    simp only [forgets, decide_eq_false_iff_not]
    rintro ⟨here, own, unlisted⟩
    rcases guarded with foreign | foreign | lists
    · exact foreign here
    · exact foreign own
    · exact unlisted lists
  | removeApplied partner key =>
    simp only [decide_eq_true_eq] at guarded
    simp only [forgets, decide_eq_false_iff_not]
    rintro ⟨here, own, open_⟩
    rcases guarded with foreign | foreign | forgotten | concluded
    · exact foreign here
    · exact foreign own
    · exact open_ (known.resolve_left forgotten)
    · exact open_ concluded
  | commit partner mutation mutate =>
    simp only [decide_eq_true_eq] at guarded
    simp only [forgets, decide_eq_false_iff_not]
    rintro ⟨here, other, below, open_⟩
    rcases guarded with foreign | own | forgotten | kept | concluded
    · exact foreign here
    · exact other own
    · exact open_ (known.resolve_left forgotten)
    · exact below kept
    · exact open_ concluded
  | _ => rfl

/-- A step that commits nothing and keeps the key in one of its memories. -/
theorem OneHold.keep (one : OneHold partnerId clientKey store) (commits : after.commits = store.commits)
    (shield : store.outstanding partnerId clientKey ≠ [] → Remembered partnerId (.issue clientKey) after) :
    OneHold partnerId clientKey after := by
  have same : after.outstanding partnerId clientKey = store.outstanding partnerId clientKey :=
    outstanding_congr commits
  constructor
  · rw [same]
    exact one.unique
  · rw [same]
    exact shield

/-! ### Commits -/

theorem PartnerStore.mem_opened {opId : Uuid} : opId ∈ store.opened partnerId clientKey ↔
    ∃ commit ∈ store.commits, commit.partnerId = partnerId ∧ commit.key = .issue clientKey ∧
      commit.mutate.opened = some opId := by
  simp only [opened, mem_filterMap]
  refine exists_congr fun commit => and_congr_right fun _ => ?_
  split_ifs with ours
  · simp only [ours, true_and]
  · exact ⟨fun same => (nomatch same), fun same => absurd ⟨same.1, same.2.1⟩ ours⟩

theorem PartnerStore.mem_outstanding {opId : Uuid} : opId ∈ store.outstanding partnerId clientKey ↔
    opId ∈ store.opened partnerId clientKey ∧ ∀ commit ∈ store.commits, commit.key ≠ .issueRefund opId := by
  simp only [outstanding, refunded, mem_filter, decide_eq_true_eq, any_eq_true,
    not_exists, not_and, ne_eq]

/-- A new commit adds at most its own op to the outstanding ones. -/
theorem PartnerStore.outstanding_cons {commit : Commit} (commits : after.commits = commit :: store.commits)
    {opId : Uuid} (standing : opId ∈ after.outstanding partnerId clientKey) :
    opId ∈ store.outstanding partnerId clientKey ∨
      commit.partnerId = partnerId ∧ commit.key = .issue clientKey ∧ commit.mutate.opened = some opId := by
  obtain ⟨opened, kept⟩ := mem_outstanding.mp standing
  obtain ⟨debit, member, ours⟩ := mem_opened.mp opened
  rw [commits] at member kept
  rcases mem_cons.mp member with rfl | old
  · exact .inr ours
  · refine .inl (mem_outstanding.mpr ⟨mem_opened.mpr ⟨debit, old, ours⟩, ?_⟩)
    exact fun refund member => kept refund (mem_cons_of_mem _ member)

/-- A new commit: of the key itself when no hold stands, or of another key that leaves a memory of it. -/
theorem OneHold.book (one : OneHold partnerId clientKey store) {commit : Commit}
    (commits : after.commits = commit :: store.commits)
    (ours : commit.partnerId = partnerId → commit.key = .issue clientKey →
      store.outstanding partnerId clientKey = [] ∧ after.lists partnerId (.issue clientKey) = true)
    (others : store.outstanding partnerId clientKey ≠ [] → Remembered partnerId (.issue clientKey) after) :
    OneHold partnerId clientKey after := by
  by_cases own : commit.partnerId = partnerId ∧ commit.key = .issue clientKey
  · obtain ⟨empty, lists⟩ := ours own.1 own.2
    have recorded : ∀ opId ∈ after.outstanding partnerId clientKey, commit.mutate.opened = some opId := by
      intro opId standing
      rcases outstanding_cons commits standing with old | ⟨-, -, opened⟩
      · rw [empty] at old
        cases old
      · exact opened
    constructor
    · intro left first right second
      exact Option.some.inj ((recorded left first).symm.trans (recorded right second))
    · exact fun _ => .inl lists
  · have subset : after.outstanding partnerId clientKey ⊆ store.outstanding partnerId clientKey := by
      intro opId standing
      rcases outstanding_cons commits standing with old | ⟨partner, key, -⟩
      · exact old
      · exact absurd ⟨partner, key⟩ own
    constructor
    · exact fun left first right second => one.unique left (subset first) right (subset second)
    · intro standing
      apply others
      intro empty
      rw [empty] at subset
      exact standing (subset_nil.mp subset)

/-- A commit of the key itself finds no standing hold, or the record turns it away. -/
theorem OneHold.commit (one : OneHold partnerId clientKey store) (tid now : ℕ) (partner : String)
    (mutation : LedgerMutation) (mutate : Mutate)
    (claimed : (tid, partner, mutation.idempotencyKey) ∈ store.claimants)
    (kept : store.outstanding partnerId clientKey ≠ [] → Remembered partnerId (.issue clientKey)
      (PartnerAction.perform tid now (.commit partner mutation mutate) store).2) :
    OneHold partnerId clientKey (PartnerAction.perform tid now (.commit partner mutation mutate) store).2 := by
  obtain ⟨-, same⟩ | ⟨record, next, found, unlisted, -, applied, same⟩ :=
    commit_cases tid now partner mutation mutate store
  · exact one.keep (by rw [same]) kept
  · apply one.book (congrArg (fun result => result.2.commits) same)
    · rintro rfl key
      dsimp only at key
      constructor
      · by_contra standing
        have known : Remembered partner (.issue clientKey) store := one.shielded standing
        have lists := known.lists_of_claimant (key ▸ claimed)
        simp only [PartnerStore.lists, found, Option.any_some, ← key, unlisted] at lists
        cases lists
      · have listed := PartnerRecord.remembers_booked applied (.issue clientKey)
        simp only [PartnerStore.lists, same, Function.update_self, Option.any_some, listed, key, decide_true,
          Bool.true_or]
    · exact kept

/-- Every partner action keeps the invariant. -/
theorem OneHold.step (one : OneHold partnerId clientKey store) (tid now : ℕ) (action : PartnerAction)
    (claimed : ∀ partner mutation mutate, action = .commit partner mutation mutate →
      (tid, partner, mutation.idempotencyKey) ∈ store.claimants)
    (guarded : guards partnerId clientKey (.partner action) store = true) :
    OneHold partnerId clientKey (action.perform tid now store).2 := by
  have kept : store.outstanding partnerId clientKey ≠ [] →
      Remembered partnerId (.issue clientKey) (action.perform tid now store).2 := by
    intro standing
    have known : Remembered partnerId (.issue clientKey) store := one.shielded standing
    exact known.step tid now action (known.not_forgets standing guarded)
  cases action with
  | commit partner mutation mutate => exact one.commit tid now partner mutation mutate (claimed _ _ _ rfl) kept
  | _ => exact one.keep (quiet_commits tid now rfl store) kept

end Steps

/-- Coupons of one client key: the safe world with at most one standing hold. -/
def issuing (partnerId clientKey : String) : Extension where
  Extra world := OneHold partnerId clientKey world.partners
  admits := Guarded partnerId clientKey
  step tid phase action choice world safe one knows allowed guarded := by
    cases action with
    | partner action =>
      refine one.step tid choice.now action ?_ guarded
      rintro partner mutation mutate rfl
      exact (knows.legal safe allowed).2
    | env action => cases action <;> exact one
    | _ => exact one

/-! ## What the invariant says -/

section Consequences

variable {world : World} {partnerId clientKey : String}

theorem Safe.opened_nodup (safe : Safe world) : (world.partners.opened partnerId clientKey).Nodup := by
  have split : world.partners.opened partnerId clientKey = (world.partners.commits.filter fun commit =>
      decide (commit.partnerId = partnerId ∧ commit.key = .issue clientKey)).filterMap fun commit => commit.mutate.opened := by
    simp only [PartnerStore.opened, filterMap_filter, decide_eq_true_eq]
  rw [split]
  exact safe.single.sublist (filter_sublist.filterMap _)

/-- Every hold of the key recorded an op. -/
theorem Safe.holds_eq (safe : Safe world) :
    world.partners.holds partnerId clientKey = (world.partners.opened partnerId clientKey).length := by
  have recorded := safe.issues
  unfold PartnerStore.holds PartnerStore.opened
  generalize world.partners.commits = commits at recorded ⊢
  induction commits with
  | nil => rfl
  | cons commit rest ih =>
    rw [countP_cons, filterMap_cons, ih fun other member => recorded other (mem_cons_of_mem _ member)]
    by_cases ours : commit.partnerId = partnerId ∧ commit.key = .issue clientKey
    · obtain ⟨opId, code, amountAtomic, debits⟩ := recorded commit mem_cons_self clientKey ours.2
      obtain ⟨otherKey, -, mutate⟩ := debits.opens
      have opened : commit.mutate.opened = some opId := congrArg Mutate.opened mutate
      simp [ours, opened]
    · simp [ours]

/-- The ops whose debit was returned are no more than the credits that returned them. -/
theorem Safe.returned_le (safe : Safe world) :
    ((world.partners.opened partnerId clientKey).filter fun opId => world.partners.refunded opId).length ≤
      world.partners.refunds partnerId clientKey := by
  have nodup : (((world.partners.opened partnerId clientKey).filter fun opId => world.partners.refunded opId).map
      LedgerKey.issueRefund).Nodup := by
    refine List.Nodup.map (fun _ _ same => LedgerKey.issueRefund.inj same) ?_
    exact safe.opened_nodup.filter _
  have subset : ((world.partners.opened partnerId clientKey).filter fun opId => world.partners.refunded opId).map
      LedgerKey.issueRefund ⊆ (world.partners.commits.filter fun commit =>
        (world.partners.opened partnerId clientKey).any fun opId => commit.key = .issueRefund opId).map
          Commit.key := by
    intro key member
    obtain ⟨opId, returned, rfl⟩ := mem_map.mp member
    obtain ⟨opened, refunded⟩ := mem_filter.mp returned
    obtain ⟨commit, booked, refunds⟩ := any_eq_true.mp refunded
    refine mem_map.mpr ⟨commit, mem_filter.mpr ⟨booked, ?_⟩, of_decide_eq_true refunds⟩
    exact any_eq_true.mpr ⟨opId, opened, refunds⟩
  have fewer := (subperm_of_subset nodup subset).length_le
  rw [length_map, length_map] at fewer
  rw [refunds, countP_eq_length_filter]
  exact fewer

/-- The debit of a live coupon stands. -/
theorem Safe.issued_outstanding (safe : Safe world) {code : String}
    (issued : world.IssuedFor partnerId clientKey code) :
    ∃ opId ∈ world.partners.outstanding partnerId clientKey,
      ∃ owner amountAtomic, world.Held owner opId code amountAtomic := by
  obtain ⟨record, found, live, opId, opened, carries⟩ := issued
  obtain ⟨owner, -, held⟩ := safe.backed code record found live opId carries
  refine ⟨opId, mem_outstanding.mpr ⟨opened, fun commit member refunds => ?_⟩, owner, _, held⟩
  exact safe.live_not_closed found live carries (safe.closed commit member opId refunds)

theorem OneHold.issuedOnce (one : OneHold partnerId clientKey world.partners) (safe : Safe world) :
    world.IssuedOnce partnerId clientKey := by
  constructor
  · have standing : (world.partners.outstanding partnerId clientKey).length ≤ 1 := by
      have nodup : (world.partners.outstanding partnerId clientKey).Nodup := safe.opened_nodup.filter _
      rw [← toFinset_card_of_nodup nodup, Finset.card_le_one]
      simpa only [mem_toFinset] using one.unique
    have returned : ((world.partners.opened partnerId clientKey).filter fun opId =>
        world.partners.refunded opId).length ≤ world.partners.refunds partnerId clientKey := safe.returned_le
    have split : (world.partners.opened partnerId clientKey).length =
        ((world.partners.opened partnerId clientKey).filter fun opId => world.partners.refunded opId).length +
          ((world.partners.opened partnerId clientKey).filter fun opId => !world.partners.refunded opId).length :=
      length_eq_length_filter_add _
    rw [safe.holds_eq]
    simp only [outstanding, Bool.not_eq_true, Bool.decide_eq_false] at standing
    omega
  · intro left right first second
    obtain ⟨opId, standing, owner, amount, commit, member, debits⟩ := safe.issued_outstanding first
    obtain ⟨otherId, alsoStanding, otherOwner, otherAmount, other, otherMember, otherDebits⟩ :=
      safe.issued_outstanding second
    obtain rfl := one.unique opId standing otherId alsoStanding
    obtain ⟨key, -, mutate⟩ := debits.opens
    obtain ⟨otherKey, -, otherMutate⟩ := otherDebits.opens
    obtain rfl := safe.debit_unique member otherMember (congrArg Mutate.opened mutate)
      (congrArg Mutate.opened otherMutate)
    obtain ⟨-, -, code, -⟩ := Mutate.recordIssue.inj (mutate.symm.trans otherMutate)
    exact code

end Consequences

/-! ## Every run -/

/-- While every step that forgets the client key under a standing hold leaves the other memory of it in
force, at most one hold of it stands and at most one live coupon was created for it. -/
theorem issued_once (caps : DailySpendLedger → Option ℤ) (threads : ℕ → Route Unit)
    (members : ∀ tid, IsRouterThread (threads tid)) (partnerId clientKey : String) {after : routerMachine.Config}
    (run : Run (Guarded partnerId clientKey) ⟨.initial caps, threads⟩ after) :
    after.world.IssuedOnce partnerId clientKey := by
  have nothing : OneHold partnerId clientKey (World.initial caps).partners :=
    ⟨fun _ member => (nomatch member), fun standing => absurd rfl standing⟩
  obtain ⟨safe, one⟩ := (issuing partnerId clientKey).reachable nothing members run
  exact OneHold.issuedOnce one safe

/-- The issue, sent a second time. -/
private def issueAgain : ℕ → Route Unit
  | 0 => couponThreads (fun _ => pure ()) 1
  | _ => pure ()

private theorem issueAgain_members : ∀ tid, IsRouterThread (couponThreads issueAgain tid) :=
  couponThreads_members fun
    | 0 => .issue _
    | _ + 1 => .idle

/-- Two requests under one client key, one after the other: the second is answered with the first one's coupon. -/
private def issueReplayed : List (ℕ × Choice) := couponIssued ++ replicate 5 (2, .plain)

theorem issued_once_replayed : ∃ after,
    Run (Guarded "p" "k") ⟨.initial fun _ => none, couponThreads issueAgain⟩ after ∧ after.world.partners.holds "p" "k" = 1 ∧
      after.world.IssuedOnce "p" "k" := by
  obtain ⟨after, run, held⟩ := Config.exec_reaches (Guarded "p" "k")
    ⟨.initial fun _ => none, couponThreads issueAgain⟩ issueReplayed (fun world => world.partners.holds "p" "k" = 1) (by rfl)
  exact ⟨after, run, of_decide_eq_true held,
    issued_once (fun _ => none) (couponThreads issueAgain) issueAgain_members "p" "k" run⟩

/-- The first request has read a partner record without the hold, the second settles the key and stalls before
it creates the coupon; the first then finds a done claim without a coupon and no open issue on its record. -/
private def issueTwice : List (ℕ × Choice) :=
  toppedUp ++ replicate 3 (1, .plain) ++ replicate 5 (2, .plain) ++ [(2, { text := "c" })] ++
    replicate 7 (2, .plain) ++ replicate 5 (1, .plain) ++ [(1, { text := "d" })] ++
    replicate 10 (1, .plain) ++ replicate 2 (2, .plain)

/-- A stale read of the partner record reopens a client key under a standing hold, and it is debited again. -/
theorem issued_twice : ¬ ∀ (caps : DailySpendLedger → Option ℤ) (threads : ℕ → Route Unit),
    (∀ tid, IsRouterThread (threads tid)) → ∀ (partnerId clientKey : String) (after : routerMachine.Config),
      Run (unrestricted routerMachine) ⟨.initial caps, threads⟩ after →
        after.world.IssuedOnce partnerId clientKey := by
  intro always
  obtain ⟨after, run, twice⟩ := Config.exec_reaches (unrestricted routerMachine)
    ⟨.initial fun _ => none, couponThreads issueAgain⟩ issueTwice
    (fun world => world.partners.holds "p" "k" = 2 ∧ world.partners.refunds "p" "k" = 0) (by rfl)
  obtain ⟨holds, refunds⟩ := of_decide_eq_true twice
  have once := (always (fun _ => none) (couponThreads issueAgain) issueAgain_members "p" "k" after run).holds
  omega

end MppRouter.Routes
