import MppRouter.Routes.KeyMemory
import MppRouter.Routes.RouterSpec

/-! # The balance law of the partner ledger

A balance moves only in the commit that also indexes the entry, by the entry's delta. The entry's body is
written before that commit under an id nobody else has, and filled in after it with the same delta, so
wherever the requests stop there is a body for every committed entry.
-/

namespace MppRouter.Routes

open Concurrent Machine Mpp Function PartnerStore List Option

namespace PartnerStore

variable (store : PartnerStore) (partnerId : String)

/-- A partner's balance; without a record it is nothing. -/
def balance : ℤ := (store.partners partnerId).elim 0 PartnerRecord.balanceAtomic

/-- The entries that a partner's record lists. -/
def index : List Uuid := (store.partners partnerId).elim [] PartnerRecord.ledgerIndex

/-- The sum of the deltas committed on a partner. -/
def committed : ℤ :=
  ((store.commits.filter fun commit => commit.partnerId = partnerId).map fun commit => commit.entry.deltaAtomic).sum

/-- The entry has a durable body with this delta. -/
def HasBody (id : Uuid) (deltaAtomic : ℤ) : Prop :=
  ∃ body, store.bodies partnerId id = some body ∧ body.deltaAtomic = deltaAtomic

end PartnerStore

/-! ## One step -/

section Steps

variable {store : PartnerStore}

/-- Only a commit moves a balance or lists an entry. -/
theorem quiet_balance (tid now : ℕ) {action : PartnerAction} (quiet : action.quiet = true) (store : PartnerStore)
    (partnerId : String) :
    (action.perform tid now store).2.balance partnerId = store.balance partnerId ∧
      (action.perform tid now store).2.index partnerId = store.index partnerId := by
  have change := quiet_change tid now quiet store partnerId
  simp only [PartnerStore.balance, index]
  generalize store.partners partnerId = current at change ⊢
  generalize (action.perform tid now store).2.partners partnerId = next at change ⊢
  cases change <;> exact ⟨rfl, rfl⟩

theorem Mutate.apply_balance {mutate : Mutate} {now : ℕ} {partner next : PartnerRecord}
    (applied : mutate.apply now partner = .ok next) :
    next.balanceAtomic = partner.balanceAtomic ∧ next.ledgerIndex = partner.ledgerIndex := by
  rw [Mutate.apply_eq applied]
  exact ⟨rfl, rfl⟩

/-- A booking moves the balance of its partner by its delta. -/
theorem PartnerStore.committed_cons {after : PartnerStore} {commit : Commit}
    (commits : after.commits = commit :: store.commits) (partnerId : String) :
    after.committed partnerId =
      store.committed partnerId + if commit.partnerId = partnerId then commit.entry.deltaAtomic else 0 := by
  simp only [committed, commits, filter_cons, decide_eq_true_eq]
  split_ifs with ours
  · rw [map_cons, sum_cons, add_comm]
  · rw [add_zero]

end Steps

/-! ## The invariant -/

structure Books (world : World) : Prop where
  balance : ∀ partnerId, 0 ≤ world.partners.balance partnerId ∧
    world.partners.balance partnerId = world.partners.committed partnerId
  indexed : ∀ partnerId, ∀ id ∈ world.partners.index partnerId,
    ∃ commit ∈ world.partners.commits, commit.partnerId = partnerId ∧ commit.entry.id = id
  bodies : ∀ commit ∈ world.partners.commits,
    world.partners.HasBody commit.partnerId commit.entry.id commit.entry.deltaAtomic
  unique : ∀ left ∈ world.partners.commits, ∀ right ∈ world.partners.commits, left.entry.id = right.entry.id →
    left.entry.deltaAtomic = right.entry.deltaAtomic
  entries : ∀ commit ∈ world.partners.commits, commit.entry.id.serial < world.minted
  written : ∀ partnerId id, world.partners.bodies partnerId id ≠ none → id.serial < world.minted

/-- A request books and writes under its own ids only. -/
structure Posts (tid : ℕ) (before after : World) : Prop where
  minted : before.minted ≤ after.minted
  commits : ∃ new, after.partners.commits = new ++ before.partners.commits ∧
    ∀ commit ∈ new, commit.entry.id.owner = tid
  bodies : ∀ partnerId id, id.owner ≠ tid → after.partners.bodies partnerId id = before.partners.bodies partnerId id

def balanceLaw : Protocol routerMachine := ⟨Books, Posts⟩

/-- The id is the request's own, and no entry has it. -/
def World.Unused (world : World) (tid : ℕ) (id : Uuid) : Prop :=
  id.owner = tid ∧ id.serial < world.minted ∧ (∀ partnerId, world.partners.bodies partnerId id = none) ∧
    ∀ commit ∈ world.partners.commits, commit.entry.id ≠ id

/-- What a request knows of its entry. -/
def World.Posting (world : World) (tid : ℕ) : Booking → Prop
  | .idle | .claimed _ _ => True
  | .drafted _ _ draft => draft.id.owner = tid ∧ draft.id.serial < world.minted ∧
      world.partners.HasBody draft.partnerId draft.id draft.deltaAtomic ∧
      ∀ commit ∈ world.partners.commits, commit.entry.id ≠ draft.id
  | .booked _ _ entry => entry.id.owner = tid ∧
      ∃ commit ∈ world.partners.commits, commit.partnerId = entry.partnerId ∧ commit.entry = entry

def BalanceKnows (tid : ℕ) (phase : RouterPhase) (world : World) : Prop :=
  (∀ id, phase.minted = some id → world.Unused tid id) ∧ world.Posting tid phase.booking

section Keeps

variable {tid other : ℕ} {world after : World}

theorem Posts.unused (distinct : other ≠ tid) (posts : Posts other world after) {id : Uuid}
    (unused : world.Unused tid id) : after.Unused tid id := by
  obtain ⟨owner, young, unwritten, unbooked⟩ := unused
  have foreign : id.owner ≠ other := fun same => distinct (same.symm.trans owner)
  refine ⟨owner, lt_of_lt_of_le young posts.minted, fun partnerId => ?_, fun commit member => ?_⟩
  · rw [posts.bodies partnerId id foreign]
    exact unwritten partnerId
  · obtain ⟨new, grown, owned⟩ := posts.commits
    rw [grown] at member
    rcases mem_append.mp member with fresh | old
    · exact fun same => foreign (same ▸ owned commit fresh)
    · exact unbooked commit old

theorem Posts.posting (distinct : other ≠ tid) (posts : Posts other world after) {booking : Booking}
    (posting : world.Posting tid booking) : after.Posting tid booking := by
  obtain ⟨new, grown, owned⟩ := posts.commits
  cases booking with
  | idle => exact trivial
  | claimed partnerId key => exact trivial
  | drafted partnerId key draft =>
    obtain ⟨owner, young, ⟨body, found, delta⟩, unbooked⟩ := posting
    have foreign : draft.id.owner ≠ other := fun same => distinct (same.symm.trans owner)
    refine ⟨owner, lt_of_lt_of_le young posts.minted, ⟨body, ?_, delta⟩, fun commit member => ?_⟩
    · rw [posts.bodies _ _ foreign]
      exact found
    · rw [grown] at member
      rcases mem_append.mp member with fresh | old
      · exact fun same => foreign (same ▸ owned commit fresh)
      · exact unbooked commit old
  | booked partnerId key entry =>
    obtain ⟨owner, commit, member, same⟩ := posting
    exact ⟨owner, commit, grown ▸ mem_append_right _ member, same⟩

/-- A step that books nothing, writes no body and moves no balance. -/
theorem Books.frame (books : Books world) (commits : after.partners.commits = world.partners.commits)
    (bodies : after.partners.bodies = world.partners.bodies)
    (balance : ∀ partnerId, after.partners.balance partnerId = world.partners.balance partnerId ∧
      after.partners.index partnerId = world.partners.index partnerId)
    (minted : world.minted ≤ after.minted) :
    Books after ∧ Posts tid world after ∧ (∀ id, world.Unused tid id → after.Unused tid id) ∧
      ∀ booking, world.Posting tid booking → after.Posting tid booking := by
  have posts : ∀ other, Posts other world after := fun other =>
    ⟨minted, ⟨[], commits, fun _ member => (nomatch member)⟩, fun _ _ _ => by rw [bodies]⟩
  refine ⟨?_, posts tid, fun id unused => ?_, fun booking posting => ?_⟩
  · constructor
    case balance =>
      intro partnerId
      rw [(balance partnerId).1, committed, commits]
      exact books.balance partnerId
    case indexed =>
      intro partnerId
      rw [(balance partnerId).2, commits]
      exact books.indexed partnerId
    case bodies =>
      simp only [HasBody]
      rw [commits, bodies]
      exact books.bodies
    case unique => exact commits ▸ books.unique
    case entries =>
      rw [commits]
      exact fun commit member => lt_of_lt_of_le (books.entries commit member) minted
    case written =>
      rw [bodies]
      exact fun partnerId id some => lt_of_lt_of_le (books.written partnerId id some) minted
  · exact (posts (tid + 1)).unused (Nat.succ_ne_self tid) unused
  · exact (posts (tid + 1)).posting (Nat.succ_ne_self tid) posting

/-- Writing a body under an own id, with the delta of every entry that has the id. -/
theorem Books.write (books : Books world) {entry : LedgerEntry} (owner : entry.id.owner = tid)
    (young : entry.id.serial < world.minted)
    (agrees : ∀ commit ∈ world.partners.commits, commit.entry.id = entry.id →
      commit.entry.deltaAtomic = entry.deltaAtomic) (draft : Bool) :
    Books { world with partners := world.partners.writeBody entry draft } ∧
      Posts tid world { world with partners := world.partners.writeBody entry draft } := by
  constructor
  · constructor
    case balance =>
      intro partnerId
      simp only [PartnerStore.balance, committed, writeBody_partners,
        writeBody_commits]
      exact books.balance partnerId
    case indexed =>
      intro partnerId
      simp only [index, writeBody_partners, writeBody_commits]
      exact books.indexed partnerId
    case bodies =>
      rw [writeBody_commits]
      intro commit member
      simp only [HasBody, writeBody_bodies]
      split_ifs with ours
      · exact ⟨entry, rfl, (agrees commit member ours.2.1).symm⟩
      · exact books.bodies commit member
    case unique =>
      rw [writeBody_commits]
      exact books.unique
    case entries =>
      rw [writeBody_commits]
      exact books.entries
    case written =>
      intro partnerId id
      rw [writeBody_bodies]
      split_ifs with ours
      · rw [ours.2.1]
        exact fun _ => young
      · exact books.written partnerId id
  · refine ⟨le_rfl, ⟨[], writeBody_commits .., fun _ member => (nomatch member)⟩, ?_⟩
    intro partnerId id foreign
    rw [writeBody_bodies]
    split_ifs with ours
    · exact absurd (ours.2.1 ▸ owner) foreign
    · rfl

theorem Books.book (books : Books world) {partnerId : String} {record next : PartnerRecord}
    {mutation : LedgerMutation} {mutate : Mutate} {now : ℕ}
    (found : world.partners.partners partnerId = some record)
    (absorbs : 0 ≤ record.balanceAtomic + mutation.draft.deltaAtomic)
    (applied : mutate.apply now (record.booked mutation) = .ok next) (partner : mutation.draft.partnerId = partnerId)
    (posting : world.Posting tid (.drafted partnerId mutation.idempotencyKey mutation.draft)) (partners : PartnerStore)
    (records : partners.partners = update world.partners.partners partnerId (some next))
    (commits : partners.commits =
      ⟨partnerId, mutation.idempotencyKey, mutation.settled record, mutate⟩ :: world.partners.commits)
    (bodies : partners.bodies = world.partners.bodies) :
    Books { world with partners } ∧ Posts tid world { world with partners } := by
  obtain ⟨owner, young, body, unbooked⟩ := posting
  obtain ⟨moved, listed⟩ := Mutate.apply_balance applied
  constructor
  · constructor
    case balance =>
      intro other
      rw [committed_cons commits]
      by_cases here : other = partnerId
      · subst here
        have before := (books.balance other).2
        have balance : partners.balance other = record.balanceAtomic + mutation.draft.deltaAtomic := by
          simp only [PartnerStore.balance, records, update_self, elim_some, moved]
          rfl
        simp only [PartnerStore.balance, found, elim_some] at before
        dsimp only
        rw [if_pos rfl, balance, ← before]
        exact ⟨absorbs, rfl⟩
      · have balance : partners.balance other = world.partners.balance other := by
          simp only [PartnerStore.balance, records, update_of_ne here]
        dsimp only
        rw [if_neg (Ne.symm here), add_zero, balance]
        exact books.balance other
    case indexed =>
      intro other id member
      rw [commits]
      by_cases here : other = partnerId
      · subst here
        simp only [index, records, update_self, elim_some, listed] at member
        rcases mem_cons.mp (mem_of_mem_take member) with rfl | old
        · exact ⟨_, mem_cons_self, rfl, rfl⟩
        · have before : id ∈ world.partners.index other := by
            simp only [index, found, elim_some]
            exact old
          obtain ⟨commit, booked, facts⟩ := books.indexed other id before
          exact ⟨commit, mem_cons_of_mem _ booked, facts⟩
      · have before : id ∈ world.partners.index other := by
          simpa only [index, records, update_of_ne here] using member
        obtain ⟨commit, booked, facts⟩ := books.indexed other id before
        exact ⟨commit, mem_cons_of_mem _ booked, facts⟩
    case bodies =>
      simp only [HasBody]
      rw [commits, bodies]
      intro commit member
      rcases mem_cons.mp member with rfl | old
      · rw [partner] at body
        exact body
      · exact books.bodies commit old
    case unique =>
      rw [commits]
      intro left first right second same
      rcases mem_cons.mp first with rfl | oldFirst <;> rcases mem_cons.mp second with rfl | oldSecond
      · rfl
      · exact absurd same.symm (unbooked right oldSecond)
      · exact absurd same (unbooked left oldFirst)
      · exact books.unique left oldFirst right oldSecond same
    case entries =>
      rw [commits]
      intro commit member
      rcases mem_cons.mp member with rfl | old
      · exact young
      · exact books.entries commit old
    case written =>
      rw [bodies]
      exact books.written
  · refine ⟨le_rfl, ⟨[_], commits, fun commit member => ?_⟩, fun _ _ _ => by rw [bodies]⟩
    obtain rfl := mem_singleton.mp member
    exact owner

end Keeps

/-! ## Every action -/

section Actions

variable {tid : ℕ} {phase : RouterPhase} {world : World}

/-- The partner actions keep the books, and give the request what its next phase says. -/
theorem Books.partner (books : Books world) (knows : BalanceKnows tid phase world) (action : PartnerAction)
    (allowed : phase.allows (.partner action)) (choice : Choice) :
    Books (perform tid (.partner action) choice world).2 ∧
      Posts tid world (perform tid (.partner action) choice world).2 ∧
      BalanceKnows tid (phase.next (.partner action) (perform tid (.partner action) choice world).1)
        (perform tid (.partner action) choice world).2 := by
  obtain ⟨unused, posting⟩ := knows
  have quiet : action.quiet = true → (∀ entry draft, action ≠ .writeBody entry draft) →
      Books (perform tid (.partner action) choice world).2 ∧
        Posts tid world (perform tid (.partner action) choice world).2 ∧
        (∀ id, world.Unused tid id → (perform tid (.partner action) choice world).2.Unused tid id) ∧
        ∀ booking, world.Posting tid booking → (perform tid (.partner action) choice world).2.Posting tid booking :=
    fun quiet other => books.frame (quiet_commits tid choice.now quiet world.partners)
      (bodies_kept tid choice.now other world.partners) (quiet_balance tid choice.now quiet world.partners)
      le_rfl
  cases action with
  | writeBody entry draft =>
    cases draft with
    | true =>
      obtain ⟨minted, key, claimed⟩ := allowed
      obtain ⟨owner, young, unwritten, unbooked⟩ := unused _ minted
      obtain ⟨kept, posts⟩ := books.write owner young (fun commit member same => absurd same (unbooked commit member)) true
      refine ⟨kept, posts, by rintro _ ⟨⟩, ?_⟩
      simp only [RouterPhase.next, claimed, Booking.draft]
      refine ⟨owner, young, ⟨entry, ?_, rfl⟩, ?_⟩
      · simp [perform, PartnerAction.perform, writeBody_bodies, unwritten]
      · simp only [perform, PartnerAction.perform, writeBody_commits]
        exact unbooked
    | false =>
      obtain ⟨partnerId, key, booked⟩ := allowed
      rw [booked] at posting
      obtain ⟨owner, commit, member, partner, same⟩ := posting
      have young := books.entries commit member
      have agrees : ∀ other ∈ world.partners.commits, other.entry.id = entry.id →
          other.entry.deltaAtomic = entry.deltaAtomic := by
        intro other booked same'
        rw [← same] at same' ⊢
        exact books.unique other booked commit member same'
      rw [same] at young
      obtain ⟨kept, posts⟩ := books.write owner young agrees false
      refine ⟨kept, posts, fun id minted => ?_, ?_⟩
      · obtain ⟨own, fresh, unwritten, unbooked⟩ := unused id minted
        have distinct : id ≠ entry.id := fun again => unbooked commit member (by rw [same, again])
        refine ⟨own, fresh, fun partner => ?_, ?_⟩
        · simp only [perform, PartnerAction.perform, writeBody_bodies]
          rw [if_neg fun both => distinct both.2.1]
          exact unwritten partner
        · simp only [perform, PartnerAction.perform, writeBody_commits]
          exact unbooked
      · simp only [RouterPhase.next, booked, World.Posting, perform, PartnerAction.perform,
          writeBody_commits]
        exact ⟨owner, commit, member, partner, same⟩
  | commit partnerId mutation mutate =>
    obtain ⟨drafted, partner, -⟩ := allowed
    rw [drafted] at posting
    obtain ⟨owner, young, ⟨body, found, delta⟩, unbooked⟩ := posting
    obtain ⟨refused, same⟩ | ⟨record, next, stored, -, absorbs, applied, same⟩ :=
      commit_cases tid choice.now partnerId mutation mutate world.partners
    · have framed : Books (perform tid (.partner (.commit partnerId mutation mutate)) choice world).2 ∧
          Posts tid world (perform tid (.partner (.commit partnerId mutation mutate)) choice world).2 ∧
          (∀ id, world.Unused tid id →
            (perform tid (.partner (.commit partnerId mutation mutate)) choice world).2.Unused tid id) ∧
          ∀ booking, world.Posting tid booking →
            (perform tid (.partner (.commit partnerId mutation mutate)) choice world).2.Posting tid booking := by
        simp only [perform, same]
        exact books.frame rfl rfl (fun _ => ⟨rfl, rfl⟩) le_rfl
      obtain ⟨kept, posts, unusedAfter, -⟩ := framed
      refine ⟨kept, posts, fun id minted => unusedAfter id (unused id minted), ?_⟩
      simp only [RouterPhase.next]
      split
      next record entry answered => exact absurd answered (refused record entry)
      next => exact trivial
    · obtain ⟨kept, posts⟩ := books.book stored absorbs applied partner
        ⟨owner, young, ⟨body, found, delta⟩, unbooked⟩
        (PartnerAction.perform tid choice.now (.commit partnerId mutation mutate) world.partners).2
        (by rw [same]) (by rw [same]) (by rw [same])
      rw [same] at kept posts
      simp only [perform, same]
      refine ⟨kept, posts, fun id minted => ?_, ?_⟩
      · obtain ⟨own, fresh, unwritten, free⟩ := unused id minted
        refine ⟨own, fresh, unwritten, fun commit member => ?_⟩
        rcases mem_cons.mp member with rfl | old
        · rintro rfl
          cases (unwritten mutation.draft.partnerId).symm.trans found
        · exact free commit old
      · exact ⟨owner, _, mem_cons_self, partner.symm, rfl⟩
  | claimIdem partnerId key =>
    obtain ⟨kept, posts, unusedAfter, postingAfter⟩ := quiet rfl (by rintro _ _ ⟨⟩)
    refine ⟨kept, posts, fun id minted => unusedAfter id (unused id minted), ?_⟩
    simp only [RouterPhase.next]
    split_ifs <;> exact trivial
  | _ =>
    obtain ⟨kept, posts, unusedAfter, postingAfter⟩ := quiet (by rfl) (by rintro _ _ ⟨⟩)
    exact ⟨kept, posts, fun id minted => unusedAfter id (unused id minted), postingAfter _ posting⟩

theorem balance_keeps (tid : ℕ) :
    routerFlow.Keeps balanceLaw (unrestricted routerMachine) tid (BalanceKnows tid) where
  stable phase other world after distinct _ _ posts knows :=
    ⟨fun id minted => Posts.unused distinct posts (knows.1 id minted), Posts.posting distinct posts knows.2⟩
  step phase action allowed world books knows choice answer after _ performed := by
    obtain ⟨rfl, rfl⟩ := Prod.mk.inj (some.inj performed)
    have still : ∀ after : World, after.partners = world.partners → world.minted ≤ after.minted →
        Books after ∧ Posts tid world after ∧ (∀ id, world.Unused tid id → after.Unused tid id) ∧
          ∀ booking, world.Posting tid booking → after.Posting tid booking :=
      fun after same minted => books.frame (by rw [same]) (by rw [same]) (fun _ => by rw [same]; exact ⟨rfl, rfl⟩) minted
    obtain ⟨unused, posting⟩ := knows
    cases action with
    | partner action => exact books.partner ⟨unused, posting⟩ action allowed choice
    | coupon action =>
      obtain ⟨kept, posts, unusedAfter, postingAfter⟩ :=
        still (perform tid (.coupon action) choice world).2 rfl le_rfl
      refine ⟨kept, posts, ?_, ?_⟩
      · cases action with
        | voidIssued code partnerId refundOpId => exact fun id same => nomatch same
        | _ => exact fun id minted => unusedAfter id (unused id minted)
      · cases action <;> exact postingAfter _ posting
    | guard action =>
      obtain ⟨kept, posts, unusedAfter, postingAfter⟩ :=
        still (perform tid (.guard action) choice world).2 rfl le_rfl
      refine ⟨kept, posts, ?_, ?_⟩
      · cases action with
        | claimInvoice invoiceKey channel ref => cases ref <;> exact fun id minted => unusedAfter id (unused id minted)
        | acquireGate invoiceKey holder rozo => cases holder <;> exact fun id minted => unusedAfter id (unused id minted)
        | _ => exact fun id minted => unusedAfter id (unused id minted)
      · cases action with
        | claimInvoice invoiceKey channel ref => cases ref <;> exact postingAfter _ posting
        | acquireGate invoiceKey holder rozo => cases holder <;> exact postingAfter _ posting
        | _ => exact postingAfter _ posting
    | env action =>
      have minted : world.minted ≤ (perform tid (.env action) choice world).2.minted := by
        cases action with
        | randomUuid => exact Nat.le_succ _
        | _ => exact le_rfl
      have same : (perform tid (.env action) choice world).2.partners = world.partners := by cases action <;> rfl
      obtain ⟨kept, posts, unusedAfter, postingAfter⟩ := still (perform tid (.env action) choice world).2 same minted
      cases action with
      | randomUuid =>
        refine ⟨kept, posts, fun id own => ?_, postingAfter _ posting⟩
        cases own
        refine ⟨rfl, Nat.lt_succ_self _, fun partnerId => ?_, fun commit member used => ?_⟩
        · by_contra written
          exact lt_irrefl _ (books.written partnerId _ written)
        · have young := books.entries commit member
          rw [used] at young
          exact lt_irrefl _ young
      | _ => exact ⟨kept, posts, fun id minted => unusedAfter id (unused id minted), postingAfter _ posting⟩

end Actions

/-! ## Every run -/

theorem books_initial (caps : DailySpendLedger → Option ℤ) : Books (World.initial caps) where
  balance _ := ⟨Int.le_refl 0, rfl⟩
  indexed _ _ member := nomatch member
  bodies _ member := nomatch member
  unique _ member := nomatch member
  entries _ member := nomatch member
  written _ _ some := absurd rfl some

theorem books_reachable {caps : DailySpendLedger → Option ℤ} {threads : ℕ → Route Unit}
    (members : ∀ tid, IsRouterThread (threads tid)) {after : routerMachine.Config}
    (run : Run (unrestricted routerMachine) ⟨.initial caps, threads⟩ after) : Books after.world := by
  let start : routerMachine.Config := ⟨.initial caps, threads⟩
  have nothing : balanceLaw.Inv start.world := books_initial caps
  exact Typestate.sound balance_keeps ({} : RouterPhase) nothing (fun _ => ⟨fun _ same => (nomatch same), trivial⟩)
    (fun tid => (members tid).follows) run

theorem commits_kept {middle after : routerMachine.Config} (later : Run (unrestricted routerMachine) middle after) :
    middle.world.partners.commits ⊆ after.world.partners.commits := by
  induction later with
  | refl => exact List.Subset.refl _
  | tail _ step ih =>
    refine List.Subset.trans ih ?_
    cases step with | @mk tid action choice rest answer world next admitted performed => ?_
    have became : world = (perform tid action choice _).2 := (congrArg Prod.snd (some.inj performed)).symm
    subst became
    cases action with
    | partner action =>
      cases action with
      | commit partnerId mutation mutate =>
        simp only [perform]
        obtain ⟨-, same⟩ | ⟨record, next, -, -, -, -, same⟩ := commit_cases tid choice.now partnerId mutation mutate _
        · rw [same]
          exact List.Subset.refl _
        · rw [same]
          exact subset_cons_self _ _
      | _ =>
        simp only [perform]
        rw [quiet_commits tid choice.now (by rfl)]
        exact List.Subset.refl _
    | env action => cases action <;> exact List.Subset.refl _
    | _ => exact List.Subset.refl _

/-- Over any interleaving of top-ups, issues, reconciles and voids, stopping anywhere: a partner's balance is
never negative and is the sum of the deltas committed on the partner, and every entry that its record ever
listed has a durable body with the delta that was committed. -/
theorem ledger_balanced (caps : DailySpendLedger → Option ℤ) (threads : ℕ → Route Unit)
    (members : ∀ tid, IsRouterThread (threads tid)) {middle after : routerMachine.Config}
    (run : Run (unrestricted routerMachine) ⟨.initial caps, threads⟩ middle)
    (later : Run (unrestricted routerMachine) middle after) (partnerId : String) :
    (∀ partner, after.world.partners.partners partnerId = some partner →
      0 ≤ partner.balanceAtomic ∧ partner.balanceAtomic = after.world.partners.committed partnerId) ∧
    ∀ partner, middle.world.partners.partners partnerId = some partner → ∀ id ∈ partner.ledgerIndex,
      ∃ commit ∈ after.world.partners.commits, commit.partnerId = partnerId ∧ commit.entry.id = id ∧
        after.world.partners.HasBody partnerId id commit.entry.deltaAtomic := by
  have before := books_reachable members run
  have books := books_reachable members (run.trans later)
  refine ⟨fun partner found => ?_, fun partner found id listed => ?_⟩
  · have law := books.balance partnerId
    simpa only [balance, found, elim_some] using law
  · have member : id ∈ middle.world.partners.index partnerId := by
      simpa only [index, found, elim_some] using listed
    obtain ⟨commit, booked, owner, same⟩ := before.indexed partnerId id member
    have kept := commits_kept later booked
    have body := books.bodies commit kept
    rw [owner, same] at body
    exact ⟨commit, kept, owner, same, body⟩

/-- A top-up, and then an issue up to its debit. -/
theorem ledger_balanced_issue : ∃ middle after,
    Run (unrestricted routerMachine) ⟨.initial fun _ => none, couponThreads fun _ => pure ()⟩ middle ∧
      Run (unrestricted routerMachine) middle after ∧ after.world.partners.committed "p" = 30 ∧
      ∃ commit ∈ after.world.partners.commits, commit.entry.id = ⟨0, 0⟩ ∧
        after.world.partners.HasBody "p" ⟨0, 0⟩ commit.entry.deltaAtomic := by
  obtain ⟨middle, after, run, later, moved⟩ := Config.exec_reaches_then (unrestricted routerMachine)
    ⟨.initial fun _ => none, couponThreads fun _ => pure ()⟩ toppedUp (List.replicate 11 (1, .plain))
    (fun middle after => ((middle.partners.partners "p").any fun partner => partner.ledgerIndex = [⟨0, 0⟩]) ∧
      (after.partners.partners "p").any fun partner => partner.balanceAtomic = 30) (by rfl)
  obtain ⟨listed, spent⟩ := of_decide_eq_true moved
  obtain ⟨before, foundBefore, index⟩ := (any_eq_true _ _).mp listed
  obtain ⟨partner, found, balance⟩ := (any_eq_true _ _).mp spent
  have law := ledger_balanced (fun _ => none) _ (couponThreads_members fun _ => .idle) run later "p"
  obtain ⟨commit, booked, -, same, body⟩ := law.2 before foundBefore ⟨0, 0⟩ (by simp [of_decide_eq_true index])
  refine ⟨middle, after, run, later, ?_, commit, booked, same, body⟩
  rw [← (law.1 partner found).2]
  exact of_decide_eq_true balance

end MppRouter.Routes
