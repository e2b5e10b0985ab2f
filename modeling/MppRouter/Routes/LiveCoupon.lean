import MppRouter.Routes.RouterSpec

/-! # A live partner coupon stands for one debit

An issue debits the partner before it creates its coupon, under an op of its own; an op is refunded only
after a create-if-absent has put something else on the coupon's key. So whatever issuers, reconcilers and
code collisions do to one another, a live coupon has its one debit behind it and no refund of its op.
-/

namespace MppRouter.Routes

open Concurrent Machine Mpp

/-- The commit debits an issue of this amount on the partner and records the op. -/
def Commit.holds (commit : Commit) (partnerId : String) (opId : Uuid) (amountAtomic : ℤ) : Bool :=
  commit.partnerId = partnerId ∧ commit.entry.kind = .issueHold ∧ commit.entry.deltaAtomic = -amountAtomic ∧
    commit.mutate.opened = some opId

/-- The debits of this amount that recorded the op on the partner. -/
def PartnerStore.debits (store : PartnerStore) (partnerId : String) (opId : Uuid) (amountAtomic : ℤ) : ℕ :=
  store.commits.countP fun commit => commit.holds partnerId opId amountAtomic

theorem Commit.Debits.holds {commit : Commit} {partnerId : String} {opId : Uuid} {code : String} {amountAtomic : ℤ}
    (debits : commit.Debits partnerId opId code amountAtomic) : commit.holds partnerId opId amountAtomic = true := by
  obtain ⟨clientKey, -, mutate⟩ := debits.opens
  have opened : commit.mutate.opened = some opId := congrArg Mutate.opened mutate
  simp only [Commit.holds, debits.partner, debits.kind, debits.delta, opened, and_self, decide_true]

/-- An op is recorded once, so it is debited at most once. -/
theorem Safe.debits_le_one {world : World} (safe : Safe world) (partnerId : String) (opId : Uuid)
    (amountAtomic : ℤ) : world.partners.debits partnerId opId amountAtomic ≤ 1 := by
  have single := safe.single
  unfold PartnerStore.debits
  generalize world.partners.commits = commits at single ⊢
  have fewer : commits.countP (fun commit => commit.holds partnerId opId amountAtomic) ≤
      commits.countP fun commit => commit.mutate.opened = some opId := by
    apply List.countP_mono_left
    intro commit _ holds
    simp only [Commit.holds, decide_eq_true_eq] at holds
    simp only [decide_eq_true_eq]
    exact holds.2.2.2
  have once : commits.countP (fun commit => commit.mutate.opened = some opId) ≤ 1 := by
    have counted : commits.countP (fun commit => commit.mutate.opened = some opId) =
        (commits.filterMap fun commit => commit.mutate.opened).count opId := by
      rw [List.count, List.countP_filterMap]
      congr 1
      funext commit
      cases commit.mutate.opened <;> simp [beq_eq_decide]
    rw [counted]
    exact List.nodup_iff_count_le_one.mp single opId
  exact Nat.le_trans fewer once

theorem Safe.live_coupon {world : World} (safe : Safe world) {code : String} {record : CouponRecord}
    (found : world.coupons.records code = some record) (live : record.tombstone = false) {partnerId : String}
    {opId : Uuid} (owner : record.partnerId = some partnerId) (carries : record.issueLedgerId = some opId) :
    world.partners.debits partnerId opId record.amountAtomic = 1 ∧
      ∀ commit ∈ world.partners.commits, commit.key ≠ .issueRefund opId := by
  constructor
  · obtain ⟨backer, backed, commit, member, debits⟩ := safe.backed code record found live opId carries
    obtain rfl : partnerId = backer := Option.some.inj (owner.symm.trans backed)
    have most := safe.debits_le_one partnerId opId record.amountAtomic
    have least : 0 < world.partners.debits partnerId opId record.amountAtomic :=
      List.countP_pos_iff.mpr ⟨commit, member, debits.holds⟩
    omega
  · intro commit member refunds
    exact safe.live_not_closed found live carries (safe.closed commit member opId refunds)

/-- A step that writes coupon keys books nothing, and every other step leaves the coupons alone. -/
theorem perform_coupons_or_partners (tid : ℕ) (action : Action) (choice : Choice) (world : World) :
    (perform tid action choice world).2.coupons = world.coupons ∨
      (perform tid action choice world).2.partners = world.partners := by
  cases action with
  | coupon action => exact .inr rfl
  | partner action => exact .inl rfl
  | guard action => exact .inl rfl
  | env action => cases action <;> exact .inl rfl

/-- Over any interleaving of issues, reconciles, code collisions and everything else, a live coupon of a
partner's op was created after exactly one committed debit of its amount under that op, and while it exists
no refund of the op is booked. -/
theorem live_coupon_debited_once (caps : DailySpendLedger → Option ℤ) (threads : ℕ → Route Unit)
    (members : ∀ tid, IsRouterThread (threads tid)) {before after : routerMachine.Config}
    (run : Run (unrestricted routerMachine) ⟨.initial caps, threads⟩ before)
    (step : Step (unrestricted routerMachine) before after) {code : String} {record : CouponRecord}
    (found : after.world.coupons.records code = some record) (live : record.tombstone = false) {partnerId : String}
    {opId : Uuid} (owner : record.partnerId = some partnerId) (carries : record.issueLedgerId = some opId) :
    before.world.partners.debits partnerId opId record.amountAtomic = 1 ∧
      after.world.partners.debits partnerId opId record.amountAtomic = 1 ∧
      ∀ commit ∈ after.world.partners.commits, commit.key ≠ .issueRefund opId := by
  obtain ⟨safeBefore, -⟩ := Extension.plain.reachable trivial members run
  obtain ⟨safeAfter, -⟩ := Extension.plain.reachable trivial members (run.tail step)
  have now := safeAfter.live_coupon found live owner carries
  refine ⟨?_, now⟩
  cases step with | @mk tid action choice rest answer world next admitted performed => ?_
  have became : world = (perform tid action choice before.world).2 :=
    (congrArg Prod.snd (Option.some.inj performed)).symm
  subst became
  rcases perform_coupons_or_partners tid action choice before.world with coupons | partners
  · have earlier : before.world.coupons.records code = some record := coupons ▸ found
    exact (safeBefore.live_coupon earlier live owner carries).1
  · rw [← partners]
    exact now.1

/-- The last step of the run creates the coupon. -/
theorem live_coupon_debited_once_issued : ∃ before after, Step (unrestricted routerMachine) before after ∧
    (after.world.coupons.records "c").isSome ∧ before.world.partners.debits "p" ⟨1, 1⟩ 20 = 1 := by
  obtain ⟨after, run, created⟩ := Config.exec_reaches (unrestricted routerMachine)
    ⟨.initial fun _ => none, couponThreads fun _ => pure ()⟩ couponIssued.dropLast
    (fun world => (world.coupons.records "c").any fun record => record.tombstone = false ∧ record.partnerId = some "p" ∧ record.issueLedgerId = some ⟨1, 1⟩ ∧
        record.amountAtomic = 20) (by rfl)
  obtain ⟨record, found, facts⟩ := (Option.any_eq_true _ _).mp created
  obtain ⟨live, owner, carries, amount⟩ := of_decide_eq_true facts
  obtain same | ⟨before, earlier, step⟩ := run.cases_tail
  · rw [same] at found
    cases found
  · have debited := live_coupon_debited_once (fun _ => none) _ (couponThreads_members fun _ => .idle) earlier step found live
      owner carries
    rw [amount] at debited
    exact ⟨before, after, step, by rw [found]; rfl, debited.1⟩

end MppRouter.Routes
