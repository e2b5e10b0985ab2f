import MppRouter.Routes.KeyOnce

/-! # The refund of a voided coupon

A void leaves a breadcrumb on the partner record, stamps its authorisation onto the coupon and then credits
the partner; the credit takes the breadcrumb away in the same commit. A request that drops a breadcrumb on
the strength of an earlier read of the coupon may take it from a void that has won the coupon meanwhile; if
that void dies, nothing is left that leads to the credit.
-/

namespace MppRouter.Routes

open Concurrent Machine Mpp Function List PartnerStore
open Option (some any_some)

/-! ## What becomes of a refund -/

namespace PartnerStore

variable (store : PartnerStore) (partnerId : String)

/-- The partner record holds a breadcrumb of the coupon. -/
def breadcrumb (code : String) : Bool :=
  (store.partners partnerId).any fun partner => partner.pendingRefunds.any fun refund => refund.code = code

/-- The refund was credited to the partner. -/
def credited (refundOpId : Uuid) (amountAtomic : ℤ) : Bool :=
  store.commits.any fun commit => commit.partnerId = partnerId ∧ commit.key = .refund refundOpId ∧
    commit.entry.deltaAtomic = amountAtomic

/-- The partner was credited this amount, and nothing else under the key of the refund. -/
def creditedOnce (refundOpId : Uuid) (amountAtomic : ℤ) : Bool :=
  store.applications partnerId (.refund refundOpId) = 1 ∧ store.credited partnerId refundOpId amountAtomic

end PartnerStore

/-- The request that authorised the refund is a void of the coupon, and it still runs. -/
def VoidRunning (threads : ℕ → Route Unit) (partnerId code : String) (refundOpId : Uuid)
    (config : routerMachine.Config) : Prop :=
  ∃ args : VoidArgs, args.partnerId = partnerId ∧ args.code = code ∧
    threads refundOpId.owner = (voidPartnerCoupon args).run ∧ config.threads refundOpId.owner ≠ .pure ()

/-- Every coupon of the partner that a void has won was credited once, or still has its breadcrumb, or belongs
to a request that still runs. -/
def RefundKept (threads : ℕ → Route Unit) (partnerId : String) (config : routerMachine.Config) : Prop :=
  ∀ code record refundOpId, config.world.coupons.records code = some record → record.partnerId = some partnerId →
    record.refundOpId = some refundOpId →
      config.world.partners.creditedOnce partnerId refundOpId record.amountAtomic = true ∨
        config.world.partners.breadcrumb partnerId code = true ∨ VoidRunning threads partnerId code refundOpId config

/-! ## The condition -/

/-- A void of the partner would win the coupon. -/
def CouponRecord.voidable (record : CouponRecord) (partnerId : String) : Bool :=
  record.tombstone = false ∧ record.partnerId = some partnerId ∧ record.status = .issued

/-- The coupon carries a refund that the partner was not credited yet. -/
def World.uncredited (world : World) (partnerId code : String) : Bool :=
  (world.coupons.records code).any fun record => record.partnerId = some partnerId ∧
    record.refundOpId.any fun refundOpId => ¬ world.partners.credited partnerId refundOpId record.amountAtomic

def LedgerKey.isRefund : LedgerKey → Bool
  | .refund _ => true
  | _ => false

/-- A void wins only with its breadcrumb in place, a breadcrumb is dropped only when no credit is due, and a
refund key leaves the applied list only when its durable claim is concluded. -/
def keepsRefunds (partnerId : String) (action : Action) (world : World) : Bool :=
  match action with
  | .coupon (.voidIssued code owner _) =>
    owner = partnerId → ((world.coupons.records code).any fun record => record.voidable partnerId) →
      world.partners.breadcrumb partnerId code
  | .partner (.dropPendingRefund owner code) =>
    owner = partnerId → world.partners.breadcrumb partnerId code → ¬ world.uncredited partnerId code
  | .partner (.commit owner mutation mutate) =>
    (world.partners.partners partnerId).all fun partner => partner.applied.all fun applied =>
      applied.k.isRefund → ¬ world.partners.forgets partnerId applied.k (.commit owner mutation mutate)
  | _ => true

abbrev KeepsRefunds (partnerId : String) : routerMachine.Admits :=
  fun _ action _ world => keepsRefunds partnerId action world = true

/-! ## The coupon side -/

section Coupons

variable {now : ℕ} {store : CouponStore} {code : String} {next : CouponRecord} {refundOpId : Uuid}

/-- A record that carries the refund as another one does. -/
def CouponRecord.SameRefund (record next : CouponRecord) : Prop :=
  record.refundOpId = next.refundOpId ∧ record.partnerId = next.partnerId ∧ record.amountAtomic = next.amountAtomic

/-- An update function that authorises no refund. -/
def Unrefunding {R : Type} (fn : Option CouponRecord → Decision CouponRecord R) : Prop :=
  (fn none).after none = none ∧
    ∀ record, ∃ after, (fn (some record)).after (some record) = some after ∧ record.SameRefund after

theorem Unrefunding.update {R : Type} {fn : Option CouponRecord → Decision CouponRecord R} (unrefunding : Unrefunding fn)
    {other : String} (found : (store.update other fn).2.records code = some next) :
    ∃ record, store.records code = some record ∧ record.SameRefund next := by
  by_cases here : code = other
  · subst here
    simp only [CouponStore.update, update_self] at found
    cases stored : store.records code with
    | none =>
      rw [stored, unrefunding.1] at found
      cases found
    | some record =>
      obtain ⟨after, same, kept⟩ := unrefunding.2 record
      rw [stored, same] at found
      obtain rfl := some.inj found
      exact ⟨record, rfl, kept⟩
  · simp only [CouponStore.update, update_of_ne here] at found
    exact ⟨next, found, rfl, rfl, rfl⟩

theorem claimCoupon_unrefunding (attemptId : Uuid) (plId : String) : Unrefunding (claimCoupon attemptId plId now) := by
  refine ⟨rfl, fun record => ?_⟩
  cases status : record.status <;> simp only [claimCoupon, status]
  case void => exact ⟨record, rfl, rfl, rfl, rfl⟩
  all_goals split_ifs <;> exact ⟨_, rfl, rfl, rfl, rfl⟩

theorem rollbackToIssued_unrefunding (attemptId : Uuid) : Unrefunding (rollbackToIssued attemptId now) := by
  refine ⟨rfl, fun record => ?_⟩
  simp only [rollbackToIssued]
  split_ifs <;> exact ⟨_, rfl, rfl, rfl, rfl⟩

theorem enterPaying_unrefunding (attemptId : Uuid) (plan : PaymentPlan) :
    Unrefunding (enterPaying attemptId plan now) := by
  refine ⟨rfl, fun record => ?_⟩
  simp only [enterPaying]
  split_ifs <;> exact ⟨_, rfl, rfl, rfl, rfl⟩

theorem finalizeCoupon_unrefunding (attemptId : Uuid) (failureReason : Option String) :
    Unrefunding (finalizeCoupon attemptId failureReason now) := by
  refine ⟨rfl, fun record => ?_⟩
  simp only [finalizeCoupon]
  split_ifs
  · exact ⟨_, rfl, rfl, rfl, rfl⟩
  · cases failureReason <;> exact ⟨_, rfl, rfl, rfl, rfl⟩

theorem resolveCoupon_unrefunding (action : ResolveAction) : Unrefunding (resolveCoupon action now) := by
  refine ⟨rfl, fun record => ?_⟩
  cases action <;> simp only [resolveCoupon]
  case void => exact ⟨_, rfl, rfl, rfl, rfl⟩
  all_goals split_ifs <;> exact ⟨_, rfl, rfl, rfl, rfl⟩

theorem stampRefund_unrefunding (refundOpId ledgerId : Uuid) (credited : Bool) :
    Unrefunding (stampRefund refundOpId ledgerId credited) := by
  refine ⟨rfl, fun record => ?_⟩
  simp only [stampRefund]
  split_ifs <;> exact ⟨_, rfl, rfl, rfl, rfl⟩

/-- A refund on a coupon was there before, or the coupon was created with it, or a void has just won it. -/
theorem coupon_refunds (action : CouponAction) (found : (action.perform now store).2.records code = some next)
    (carries : next.refundOpId = some refundOpId) :
    (∃ record, store.records code = some record ∧ record.SameRefund next) ∨ action = .create next ∨
      ∃ owner, action = .voidIssued code owner refundOpId ∧
        ∃ record, store.records code = some record ∧ record.voidable owner = true ∧ next.partnerId = some owner := by
  cases action with
  | read other => exact .inl ⟨next, found, rfl, rfl, rfl⟩
  | create record =>
    by_cases here : code = record.code
    · subst here
      simp only [CouponAction.perform, CouponStore.update, update_self] at found
      cases stored : store.records record.code with
      | some other =>
        simp only [stored, createCoupon, Decision.after_noop] at found
        obtain rfl := some.inj found
        exact .inl ⟨other, rfl, rfl, rfl, rfl⟩
      | none =>
        simp only [stored, createCoupon, Decision.after_set] at found
        obtain rfl := some.inj found
        exact .inr (.inl rfl)
    · simp only [CouponAction.perform, CouponStore.update, update_of_ne here] at found
      exact .inl ⟨next, found, rfl, rfl, rfl⟩
  | claim other attemptId plId => exact .inl ((claimCoupon_unrefunding attemptId plId).update found)
  | rollback other attemptId => exact .inl ((rollbackToIssued_unrefunding attemptId).update found)
  | enterPaying other attemptId plan =>
    left
    simp only [CouponAction.perform] at found
    split_ifs at found <;> exact (enterPaying_unrefunding attemptId plan).update found
  | finalize other attemptId failureReason =>
    exact .inl ((finalizeCoupon_unrefunding attemptId failureReason).update found)
  | resolve other action => exact .inl ((resolveCoupon_unrefunding action).update found)
  | stampRefund other authorised ledgerId credited =>
    exact .inl ((stampRefund_unrefunding authorised ledgerId credited).update found)
  | voidIssued other owner authorised =>
    by_cases here : code = other
    · subst here
      simp only [CouponAction.perform, CouponStore.update, update_self] at found
      cases stored : store.records code with
      | none =>
        simp only [stored, voidIssued, Decision.after_noop] at found
        cases found
      | some record =>
        simp only [stored, voidIssued] at found
        split_ifs at found with dead foreign moved
        · exact .inl ⟨record, rfl, by obtain rfl := some.inj found; exact ⟨rfl, rfl, rfl⟩⟩
        · exact .inl ⟨record, rfl, by obtain rfl := some.inj found; exact ⟨rfl, rfl, rfl⟩⟩
        · exact .inl ⟨record, rfl, by obtain rfl := some.inj found; exact ⟨rfl, rfl, rfl⟩⟩
        · right; right
          have live : record.tombstone = false := Bool.eq_false_iff.mpr dead
          have owns : record.partnerId = some owner := not_not.mp foreign
          have status : record.status = .issued := not_not.mp moved
          obtain rfl := some.inj found
          obtain rfl : authorised = refundOpId := some.inj carries
          exact ⟨owner, rfl, record, rfl, by simp [CouponRecord.voidable, live, owns, status], owns⟩
    · simp only [CouponAction.perform, CouponStore.update, update_of_ne here] at found
      exact .inl ⟨next, found, rfl, rfl, rfl⟩

end Coupons

/-! ## The invariant -/

/-- A refund of the partner was credited, or its breadcrumb is still there. -/
def Owed (partnerId : String) (world : World) : Prop :=
  ∀ code record refundOpId, world.coupons.records code = some record → record.partnerId = some partnerId →
    record.refundOpId = some refundOpId →
      world.partners.credited partnerId refundOpId record.amountAtomic = true ∨
        world.partners.breadcrumb partnerId code = true

/-- The refund keys are applied at most once, and no refund is lost. -/
structure RefundsSafe (partnerId : String) (world : World) : Prop where
  once : ∀ refundOpId, AppliedOnce partnerId (.refund refundOpId) world.partners
  owed : Owed partnerId world

section Steps

variable {partnerId : String} {phase : RouterPhase} {world after : World} {tid : ℕ} {choice : Choice}

/-- A coupon step authorises a refund only by a void that finds its breadcrumb. -/
theorem Owed.coupon (owed : Owed partnerId world) {action : CouponAction} (allowed : phase.allows (.coupon action))
    (admitted : keepsRefunds partnerId (.coupon action) world = true) :
    Owed partnerId (perform tid (.coupon action) choice world).2 := by
  intro code next refundOpId found owns carries
  obtain ⟨record, stored, same, owner, amount⟩ | rfl | ⟨other, rfl, record, stored, voidable, owner⟩ :=
    coupon_refunds action found carries
  · have before := owed code record refundOpId stored (owner.trans owns) (same.trans carries)
    rw [amount] at before
    exact before
  · cases allowed.1.symm.trans carries
  · obtain rfl : other = partnerId := some.inj (owner.symm.trans owns)
    right
    simp only [keepsRefunds, decide_eq_true_eq, stored, any_some, forall_const] at admitted
    exact admitted voidable

theorem PartnerStore.breadcrumb_iff {store : PartnerStore} {code : String} : store.breadcrumb partnerId code = true ↔
    ∃ partner, store.partners partnerId = some partner ∧
      ∃ refund ∈ partner.pendingRefunds, refund.code = code := by
  simp only [breadcrumb, Option.any_eq_true, any_eq_true, decide_eq_true_eq]

/-- A partner step that commits nothing takes a breadcrumb away only by dropping it. -/
theorem breadcrumb_quiet {action : PartnerAction} (quiet : action.quiet = true) {store : PartnerStore} {now : ℕ}
    {code : String} (there : store.breadcrumb partnerId code = true) :
    (action.perform tid now store).2.breadcrumb partnerId code = true ∨
      action = .dropPendingRefund partnerId code := by
  obtain ⟨partner, found, refund, member, rfl⟩ := breadcrumb_iff.mp there
  have change := quiet_change tid now quiet store partnerId
  rw [found] at change
  have kept : ∀ next, (action.perform tid now store).2.partners partnerId = some next →
      (∃ other ∈ next.pendingRefunds, other.code = refund.code) →
      (action.perform tid now store).2.breadcrumb partnerId refund.code = true ∨
        action = .dropPendingRefund partnerId refund.code :=
    fun next stored holds => .inl (breadcrumb_iff.mpr ⟨next, stored, holds⟩)
  generalize stored : (action.perform tid now store).2.partners partnerId = next at change
  cases change with
  | dropped performs =>
    rename_i code
    by_cases same : code = refund.code
    · exact .inr (same ▸ performs)
    · apply kept _ stored
      exact ⟨refund, (mem_eraseP_of_neg (by simpa using Ne.symm same)).mpr member, rfl⟩
  | noted performs => exact kept _ stored ⟨refund, mem_cons_of_mem _ member, rfl⟩
  | _ => exact kept _ stored ⟨refund, member, rfl⟩

/-- A commit takes a breadcrumb away only together with the credit. -/
theorem breadcrumb_commit {partner : String} {mutation : LedgerMutation} {mutate : Mutate} {store : PartnerStore}
    {now : ℕ} {code : String} (there : store.breadcrumb partnerId code = true) :
    (PartnerAction.perform tid now (.commit partner mutation mutate) store).2.breadcrumb partnerId code = true ∨
      partner = partnerId ∧ mutate = .dropRefund code ∧ ∀ refundOpId, mutation.idempotencyKey = .refund refundOpId →
        (PartnerAction.perform tid now (.commit partner mutation mutate) store).2.credited partnerId refundOpId
          mutation.draft.deltaAtomic = true := by
  obtain ⟨-, same⟩ | ⟨record, next, found, -, -, applied, same⟩ :=
    commit_cases tid now partner mutation mutate store
  · rw [same]
    exact .inl there
  · rw [same]
    by_cases here : partner = partnerId
    · subst here
      obtain ⟨before, stored, refund, member, rfl⟩ := breadcrumb_iff.mp there
      obtain rfl := some.inj (found.symm.trans stored)
      have kept : refund ∈ next.pendingRefunds →
          breadcrumb { store with partners := update store.partners partner (some next) } partner
            refund.code = true :=
        fun stays => breadcrumb_iff.mpr ⟨next, update_self .., refund, stays, rfl⟩
      rw [Mutate.apply_eq applied] at kept
      cases mutate with
      | dropRefund code =>
        by_cases same : code = refund.code
        · right
          refine ⟨rfl, by rw [same], fun refundOpId key => ?_⟩
          simp [credited, key, LedgerMutation.settled]
        · left
          rw [Mutate.apply_eq applied]
          exact kept ((mem_eraseP_of_neg (by simpa using Ne.symm same)).mpr member)
      | _ =>
        left
        rw [Mutate.apply_eq applied]
        exact kept member
    · left
      simp only [breadcrumb, update_of_ne (Ne.symm here)]
      exact there

theorem credited_grows {store later : PartnerStore} {new : List Commit} (grown : later.commits = new ++ store.commits)
    {refundOpId : Uuid} {amountAtomic : ℤ} (credited : store.credited partnerId refundOpId amountAtomic = true) :
    later.credited partnerId refundOpId amountAtomic = true := by
  rw [PartnerStore.credited, grown, any_append]
  exact Bool.or_eq_true_iff.mpr (.inr credited)

/-- A step that commits nothing drops a breadcrumb only when no credit is due. -/
theorem Owed.quiet (owed : Owed partnerId world) {action : PartnerAction} (quiet : action.quiet = true)
    (admitted : keepsRefunds partnerId (.partner action) world = true) :
    Owed partnerId (perform tid (.partner action) choice world).2 := by
  intro code record refundOpId found owns carries
  have stored : world.coupons.records code = some record := found
  have grown : (action.perform tid choice.now world.partners).2.commits = [] ++ world.partners.commits :=
    quiet_commits tid choice.now quiet world.partners
  rcases owed code record refundOpId stored owns carries with credited | there
  · exact .inl (credited_grows grown credited)
  · obtain stays | rfl := @breadcrumb_quiet partnerId tid action quiet world.partners choice.now code there
    · exact .inr stays
    · left
      simp only [keepsRefunds, decide_eq_true_eq, forall_const] at admitted
      have settled := admitted there
      simp only [World.uncredited, stored, any_some, owns, carries, true_and, decide_eq_true_eq,
        not_not] at settled
      exact credited_grows grown settled

/-- A commit drops a breadcrumb only with the credit that its coupon authorises. -/
theorem Owed.commit (owed : Owed partnerId world) (knows : RouterKnows tid phase world) {partner : String}
    {mutation : LedgerMutation} {mutate : Mutate} (credit : phase.Credits partner mutation mutate)
    (moves : Moves tid world (perform tid (.partner (.commit partner mutation mutate)) choice world).2) :
    Owed partnerId (perform tid (.partner (.commit partner mutation mutate)) choice world).2 := by
  intro code record refundOpId found owns carries
  have stored : world.coupons.records code = some record := found
  obtain ⟨new, grown, -⟩ := moves.commits
  rcases owed code record refundOpId stored owns carries with credited | there
  · exact .inl (credited_grows grown credited)
  · obtain stays | ⟨rfl, rfl, credits⟩ :=
      @breadcrumb_commit partnerId tid partner mutation mutate world.partners choice.now code there
    · exact .inr stays
    · left
      simp only [RouterPhase.Credits] at credit
      split at credit
      next authorised key =>
        obtain ⟨seenCode, seen, member, same, -, delta, drops, -⟩ := credit
        obtain rfl : code = seenCode := by simpa using drops
        obtain ⟨current, present, evolves⟩ := knows.seen code seen member
        obtain rfl := some.inj (stored.symm.trans present)
        obtain rfl : authorised = refundOpId :=
          some.inj ((evolves.refundOpId authorised same).symm.trans carries)
        have booked := credits authorised key
        rw [delta, ← evolves.amountAtomic] at booked
        exact booked
      next => exact absurd rfl (credit code)

/-- The condition gives every refund key what `AppliedOnce` asks of one key. -/
theorem keepsMemory_refund {refundOpId : Uuid} (once : AppliedOnce partnerId (.refund refundOpId) world.partners)
    {action : PartnerAction} (allowed : phase.allows (.partner action))
    (admitted : keepsRefunds partnerId (.partner action) world = true) :
    keepsMemory partnerId (.refund refundOpId) (.partner action) world.partners = true := by
  rw [keepsMemory, decide_eq_true_eq]
  by_cases applied : world.partners.applications partnerId (.refund refundOpId) = 0
  · exact .inl applied
  right
  cases action with
  | commit partner mutation mutate =>
    intro forgets
    have forgot := forgets
    simp only [PartnerStore.forgets, decide_eq_true_eq] at forgot
    have lists := (once.remembered applied).resolve_right forgot.2.2.2
    obtain ⟨record, found, remembers⟩ := (Option.any_eq_true _ _).mp lists
    obtain ⟨entry, member, key⟩ := any_eq_true.mp remembers
    have listed : entry.k = .refund refundOpId := of_decide_eq_true key
    simp only [keepsRefunds, found, Option.all_some, all_eq_true, decide_eq_true_eq] at admitted
    have keeps := admitted entry member (by rw [listed]; rfl)
    rw [listed] at keeps
    exact keeps forgets
  | releaseIdem partner key =>
    obtain ⟨clientKey, rfl⟩ := allowed
    simp [PartnerStore.forgets]
  | removeApplied partner key =>
    obtain ⟨clientKey, rfl⟩ := allowed
    simp [PartnerStore.forgets]
  | _ => exact Bool.false_ne_true

end Steps

/-- Refunds of one partner: the safe world in which no refund is lost. -/
def refunding (partnerId : String) : Extension where
  Extra := RefundsSafe partnerId
  admits := KeepsRefunds partnerId
  step tid phase action choice world safe refunds knows allowed keeps := by
    have legal := knows.legal safe allowed
    cases action with
    | coupon action =>
      exact ⟨refunds.once, @Owed.coupon partnerId phase world tid choice refunds.owed action allowed keeps⟩
    | guard action => exact ⟨refunds.once, refunds.owed⟩
    | env action => cases action <;> exact ⟨refunds.once, refunds.owed⟩
    | partner action =>
      constructor
      · intro refundOpId
        have once := refunds.once refundOpId
        apply once.step tid choice.now action
        · rintro partner mutation mutate rfl
          exact legal.2
        · exact keepsMemory_refund once allowed keeps
      · cases action with
        | commit partner mutation mutate =>
          exact refunds.owed.commit knows allowed.2.2.1 (safe.step legal choice).2
        | _ => exact @Owed.quiet partnerId world tid choice refunds.owed _ (by rfl) keeps

/-! ## Every run -/

/-- Over any interleaving of voids, reconciles and everything else, each dying anywhere, in which every void wins
with its breadcrumb in place, no breadcrumb is dropped while a credit is due, and no refund key is forgotten:
every coupon won by a void was credited once, or still has its breadcrumb, or belongs to a running request. -/
theorem refund_kept (caps : DailySpendLedger → Option ℤ) (threads : ℕ → Route Unit)
    (members : ∀ tid, IsRouterThread (threads tid)) (partnerId : String) {after : routerMachine.Config}
    (run : CrashRun (KeepsRefunds partnerId) ⟨.initial caps, threads⟩ after) :
    RefundKept threads partnerId after := by
  obtain ⟨config, survived, same, -⟩ := run.survivors
  have start : RefundsSafe partnerId (World.initial caps) := by
    constructor
    · exact fun refundOpId => ⟨Nat.zero_le 1, fun applied => absurd rfl applied⟩
    · exact fun code record refundOpId found => nomatch found
  obtain ⟨-, safe⟩ := (refunding partnerId).reachable start members survived
  rw [same] at safe
  intro code record refundOpId found owns carries
  rcases safe.owed code record refundOpId found owns carries with credited | there
  · left
    have once := (safe.once refundOpId).once
    have counted : 0 < after.world.partners.applications partnerId (.refund refundOpId) := by
      obtain ⟨commit, member, facts⟩ := any_eq_true.mp credited
      obtain ⟨owner, key, -⟩ := of_decide_eq_true facts
      exact countP_pos_iff.mpr ⟨commit, member, decide_eq_true ⟨owner, key⟩⟩
    simp only [creditedOnce, credited, and_true, decide_eq_true_eq]
    omega
  · exact .inr (.inl there)

/-! ## A breadcrumb dropped too late -/

/-- The void of the coupon, and a reconcile. -/
private def voiding : ℕ → Route Unit
  | 0 => (voidPartnerCoupon { partnerId := "p", code := "c" }).run
  | 1 => (reconcilePending "p").run
  | _ => pure ()

private theorem voiding_members : ∀ tid, IsRouterThread (couponThreads voiding tid) :=
  couponThreads_members fun
    | 0 => .void _
    | 1 => .reconcile _
    | _ + 2 => .idle

/-- The void leaves its breadcrumb; the reconcile reads it and the coupon, which is still issued, and drops it;
then the void wins the coupon. -/
private def refundStranded : List (ℕ × Choice) :=
  couponIssued ++ replicate 3 (2, .plain) ++ replicate 4 (3, .plain) ++ [(2, .plain)]

theorem refund_kept_credited : ∃ after, CrashRun (KeepsRefunds "p") ⟨.initial fun _ => none, couponThreads voiding⟩ after ∧
    RefundKept (couponThreads voiding) "p" after ∧ after.world.partners.creditedOnce "p" ⟨2, 3⟩ 20 = true := by
  obtain ⟨after, run, credited⟩ := Config.exec_reaches (KeepsRefunds "p") ⟨.initial fun _ => none, couponThreads voiding⟩
    (couponIssued ++ replicate 12 (2, .plain))
    (fun world => world.partners.creditedOnce "p" ⟨2, 3⟩ 20) (by rfl)
  have kept := refund_kept (fun _ => none) (couponThreads voiding) voiding_members "p" run.crashing
  exact ⟨after, run.crashing, kept, credited⟩

/-- A reconcile that read the coupon before the void won it drops the breadcrumb; when the void then dies, the
coupon is void and nothing is left of the credit. -/
theorem refund_lost : ¬ ∀ (caps : DailySpendLedger → Option ℤ) (threads : ℕ → Route Unit),
    (∀ tid, IsRouterThread (threads tid)) → ∀ (partnerId : String) (after : routerMachine.Config),
      CrashRun (unrestricted routerMachine) ⟨.initial caps, threads⟩ after → RefundKept threads partnerId after := by
  intro always
  obtain ⟨after, run, lost⟩ := Config.exec_reaches (unrestricted routerMachine)
    ⟨.initial fun _ => none, couponThreads voiding⟩ refundStranded
    (fun world => ((world.coupons.records "c").any fun record => record.partnerId = some "p" ∧
      record.refundOpId = some ⟨2, 3⟩ ∧ ¬ world.partners.creditedOnce "p" ⟨2, 3⟩ record.amountAtomic) ∧
        ¬ world.partners.breadcrumb "p" "c") (by rfl)
  obtain ⟨voided, gone⟩ := of_decide_eq_true lost
  obtain ⟨record, found, facts⟩ := (Option.any_eq_true _ _).mp voided
  obtain ⟨owns, carries, uncredited⟩ := of_decide_eq_true facts
  have dead : CrashRun (unrestricted routerMachine) ⟨.initial fun _ => none, couponThreads voiding⟩
      ⟨after.world, update after.threads 2 (.pure ())⟩ := run.crashing.tail (.crash after 2)
  rcases always _ _ voiding_members "p" _ dead "c" record ⟨2, 3⟩ found owns carries with
    credited | there | ⟨args, -, -, -, running⟩
  · exact uncredited credited
  · exact gone there
  · apply running
    simp only [update_self]

end MppRouter.Routes
