import MppRouter.Routes.RouterFlow

/-! # Every router request keeps the world safe

What a request knows in each of its phases makes its next action legal: a redemption carries a fresh attempt
id, so nobody else can enter `paying` with it or send its call; an issue carries a fresh op, so nobody else
can create its coupon. A property adds an invariant and a condition on steps to the safe world, and shows that
the steps of the phases keep it.
-/

namespace MppRouter.Routes

open Concurrent Machine Mpp List Option

/-- The claim of a key that the request stands behind. -/
def Booking.claim : Booking → Option (String × LedgerKey)
  | .claimed partnerId key | .drafted partnerId key _ => some (partnerId, key)
  | .idle | .booked _ _ _ => none

/-- The attempt has not tried to enter `paying`. -/
def Redemption.early : Redemption → Bool
  | .idle | .claimed _ _ | .gated _ _ => true
  | .entered _ _ _ | .lost _ _ | .sent => false

/-- What a request knows of the world in a phase. -/
structure RouterKnows (tid : ℕ) (phase : RouterPhase) (world : World) : Prop where
  minted : ∀ id, phase.minted = some id → id.owner = tid ∧ (phase.redemption.early = true → world.Fresh id)
  entered : ∀ invoiceKey code attemptId, phase.redemption = .entered invoiceKey code attemptId →
    attemptId.owner = tid ∧ world.Permit code attemptId
  claimed : ∀ partnerId key, phase.booking.claim = some (partnerId, key) →
    (tid, partnerId, key) ∈ world.partners.claimants
  ops : ∀ opId ∈ phase.ops, opId.owner = tid ∧ world.Unopened opId
  unborn : ∀ opId ∈ phase.unborn, opId.owner = tid ∧ world.Unborn opId
  held : ∀ partnerId opId code amountAtomic, (partnerId, opId, code, amountAtomic) ∈ phase.held →
    world.Held partnerId opId code amountAtomic
  closed : ∀ opId ∈ phase.closed, world.Closed opId
  seen : ∀ code record, (code, record) ∈ phase.seen →
    ∃ current, world.coupons.records code = some current ∧ record.Evolves current

/-- The histories have not grown by anything of the thread's own. -/
structure Beside (tid : ℕ) (world after : World) : Prop where
  entered : ∀ entry ∈ after.coupons.entered, entry.2.owner = tid → entry ∈ world.coupons.entered
  calls : ∀ entry ∈ after.couponCalls, entry.2.owner = tid → entry ∈ world.couponCalls
  commits : ∀ commit ∈ after.partners.commits, ∀ opId, commit.mutate.opened = some opId → opId.owner = tid →
    commit ∈ world.partners.commits
  claimants : ∀ claim ∈ world.partners.claimants, claim.1 = tid → claim ∈ after.partners.claimants

section Knowledge

variable {tid mover : ℕ} {world after : World} {phase : RouterPhase}

theorem Beside.of_eq (entered : after.coupons.entered = world.coupons.entered) (calls : after.calls = world.calls)
    (commits : after.partners.commits = world.partners.commits)
    (claimants : world.partners.claimants ⊆ after.partners.claimants) : Beside tid world after where
  entered entry member _ := entered ▸ member
  calls entry member _ := by
    rw [World.couponCalls, calls] at member
    exact member
  commits commit member _ _ _ := commits ▸ member
  claimants claim member _ := claimants member

theorem Moves.beside (moves : Moves mover world after) (distinct : mover ≠ tid) : Beside tid world after where
  entered entry member owner := by
    obtain ⟨new, grown, owned⟩ := moves.entered
    rw [grown] at member
    exact (mem_append.mp member).resolve_left fun added => distinct ((owned entry added).symm.trans owner)
  calls entry member owner := by
    obtain ⟨new, grown, owned⟩ := moves.calls
    rw [grown] at member
    exact (mem_append.mp member).resolve_left fun added => distinct ((owned entry added).symm.trans owner)
  commits commit member opId opened owner := by
    obtain ⟨new, grown, owned⟩ := moves.commits
    rw [grown] at member
    exact (mem_append.mp member).resolve_left fun added => distinct ((owned commit added opId opened).symm.trans owner)
  claimants claim member own := moves.claimants claim member fun same => distinct (same.symm.trans own)

/-- Only the thread that minted an op creates its coupon. -/
theorem World.Unborn.keep {opId : Uuid} (unborn : world.Unborn opId) (moves : Moves mover world after)
    (foreign : opId.owner ≠ mover) : after.Unborn opId := by
  intro code record found live carries
  cases before : world.coupons.records code with
  | none => exact foreign (moves.born code record before found live opId carries)
  | some earlier =>
    obtain ⟨next, stored, evolves⟩ := moves.kept code earlier before
    obtain rfl := some.inj (found.symm.trans stored)
    exact unborn code earlier before (evolves.tombstone.symm.trans live) (evolves.issueLedgerId.symm.trans carries)

theorem World.Fresh.keep {attemptId : Uuid} (fresh : world.Fresh attemptId) (owner : attemptId.owner = tid)
    (moves : Moves mover world after) (beside : Beside tid world after) : after.Fresh attemptId :=
  ⟨Nat.lt_of_lt_of_le fresh.1 moves.minted, fun code member => fresh.2 code (beside.entered _ member owner)⟩

/-- What a request knows whatever has moved: the debits, the ops closed and the coupons read. -/
theorem RouterKnows.later (knows : RouterKnows tid phase world) (moves : Moves mover world after) :
    RouterKnows tid { seen := phase.seen, held := phase.held, closed := phase.closed } after where
  minted := nofun
  entered := nofun
  claimed := nofun
  ops := nofun
  unborn := nofun
  held partnerId opId code amountAtomic member := (knows.held partnerId opId code amountAtomic member).keep moves
  closed opId member := (knows.closed opId member).keep moves
  seen code record member := by
    obtain ⟨current, found, evolves⟩ := knows.seen code record member
    obtain ⟨next, stored, later⟩ := moves.kept code current found
    exact ⟨next, stored, evolves.trans later⟩

/-- Steps that add nothing of the thread's own keep what it knows. -/
theorem RouterKnows.keep (knows : RouterKnows tid phase world) (moves : Moves mover world after)
    (beside : Beside tid world after) (unborn : ∀ opId ∈ phase.unborn, after.Unborn opId) :
    RouterKnows tid phase after where
  minted id minted := by
    obtain ⟨owner, fresh⟩ := knows.minted id minted
    exact ⟨owner, fun early => (fresh early).keep owner moves beside⟩
  entered invoiceKey code attemptId entered := by
    obtain ⟨owner, there, uncalled⟩ := knows.entered invoiceKey code attemptId entered
    obtain ⟨new, grown, -⟩ := moves.entered
    exact ⟨owner, grown ▸ mem_append_right _ there, fun called => uncalled (beside.calls _ called owner)⟩
  claimed partnerId key claimed := beside.claimants _ (knows.claimed partnerId key claimed) rfl
  ops opId member := by
    obtain ⟨owner, young, unopened⟩ := knows.ops opId member
    exact ⟨owner, Nat.lt_of_lt_of_le young moves.minted,
      fun commit committed opened => unopened commit (beside.commits commit committed opId opened owner) opened⟩
  unborn opId member := ⟨(knows.unborn opId member).1, unborn opId member⟩
  held := (knows.later moves).held
  closed := (knows.later moves).closed
  seen := (knows.later moves).seen

variable {record : CouponRecord}

theorem World.Held.close {partnerId : String} {opId : Uuid} {code : String} {amountAtomic : ℤ}
    (held : world.Held partnerId opId code amountAtomic)
    (found : world.coupons.records code = some record)
    (other : record.tombstone = false → record.issueLedgerId ≠ some opId) : world.Closed opId :=
  ⟨partnerId, code, amountAtomic, held, record, found, other⟩

theorem World.Held.close_foreign (safe : Safe world) {partnerId : String} {opId : Uuid} {code : String}
    {amountAtomic : ℤ} (held : world.Held partnerId opId code amountAtomic)
    (found : world.coupons.records code = some record) (foreign : record.issuedBy partnerId opId = false) :
    world.Closed opId := by
  refine held.close found fun live carries => ?_
  obtain ⟨left, first, debits⟩ := held
  obtain ⟨owner, partner, right, second, backs⟩ := safe.backed code record found live opId carries
  obtain ⟨clientKey, -, mutate⟩ := debits.opens
  obtain ⟨otherKey, -, otherMutate⟩ := backs.opens
  obtain rfl := safe.debit_unique first second (congrArg Mutate.opened mutate) (congrArg Mutate.opened otherMutate)
  obtain rfl := debits.partner.symm.trans backs.partner
  simp [CouponRecord.issuedBy, partner, carries] at foreign

theorem RouterKnows.shut (knows : RouterKnows tid phase world) (safe : Safe world) {opId : Uuid}
    (shuts : phase.Shuts opId) : world.Closed opId := by
  rcases shuts with closed | ⟨partnerId, code, amountAtomic, record, debited, read, other⟩
  · exact knows.closed opId closed
  · obtain ⟨current, found, evolves⟩ := knows.seen code record read
    have held := knows.held _ _ _ _ debited
    rcases other with dead | foreign
    · exact held.close found fun live => by simp [evolves.tombstone.symm.trans live] at dead
    · refine held.close_foreign safe found ?_
      rw [CouponRecord.issuedBy, evolves.partnerId, evolves.issueLedgerId]
      exact foreign

theorem sound_new (refund : record.refundOpId = none) : record.Sound 0 where
  counted := by cases record.status <;> simp [CouponStatus.credit]
  voided := by
    rw [refund]
    rintro ⟨⟩
  spent _ entered := absurd rfl entered

theorem RouterKnows.legal (knows : RouterKnows tid phase world) (safe : Safe world) {action : Action}
    (allowed : phase.allows action) : Legal tid action world := by
  cases action with
  | coupon action =>
    cases action with
    | create record =>
      refine ⟨sound_new allowed.1, fun live opId carries => ?_⟩
      obtain ⟨unborn, partnerId, owner, held⟩ := allowed.2 live opId carries
      exact ⟨(knows.unborn opId unborn).1, partnerId, owner, knows.held _ _ _ _ held⟩
    | enterPaying code attemptId plan =>
      obtain ⟨owner, fresh⟩ := knows.minted attemptId allowed.1
      exact ⟨owner, fresh (by rw [allowed.2]; rfl)⟩
    | _ => trivial
  | partner action =>
    cases action with
    | commit partnerId mutation mutate =>
      obtain ⟨drafted, -, credits, debits⟩ := allowed
      refine ⟨⟨?_, debits.2.1, fun opId key => knows.shut safe (debits.2.2 opId key), ?_⟩, ?_⟩
      · intro opId clientKey code amountAtomic same
        obtain ⟨key, kind, delta, own⟩ := debits.1 opId clientKey code amountAtomic same
        obtain ⟨owner, young, unopened⟩ := knows.ops opId own
        exact ⟨key, kind, delta, owner, young, unopened⟩
      · intro refundOpId key
        simp only [RouterPhase.Credits, key] at credits
        obtain ⟨code, record, seen, carries, ref, -⟩ := credits
        obtain ⟨current, found, evolves⟩ := knows.seen code record seen
        exact ⟨code, ref, current, found, evolves.refundOpId refundOpId carries⟩
      · exact knows.claimed partnerId _ (by rw [drafted]; rfl)
    | _ => trivial
  | guard action => trivial
  | env action =>
    cases action with
    | send call =>
      obtain ⟨code, attemptId, entered, -, caller⟩ := allowed
      obtain ⟨owner, permit⟩ := knows.entered _ code attemptId entered
      exact ⟨code, attemptId, caller, owner, permit⟩
    | _ => trivial

end Knowledge

/-! ## One step -/

section Step

variable {tid : ℕ} {world : World} {phase : RouterPhase}

section Calm

variable (knows : RouterKnows tid phase world) (safe : Safe world)

include knows safe

/-- A coupon step that the ids of the request have nothing to do with. -/
theorem RouterKnows.aside {action : CouponAction} (quiet : action.quiet = true) (choice : Choice) :
    RouterKnows tid { phase with unborn := [] } (perform tid (.coupon action) choice world).2 := by
  have moves := (safe.coupon_action tid quiet choice).2
  have entered : (action.perform choice.now world.coupons).2.entered = world.coupons.entered := by
    cases action with
    | enterPaying code attemptId plan => cases quiet
    | _ => rfl
  exact RouterKnows.keep { knows with unborn := nofun } moves
    (.of_eq entered rfl rfl (List.Subset.refl _)) nofun

theorem RouterKnows.coupon {action : CouponAction} (allowed : phase.allows (.coupon action)) (choice : Choice) :
    RouterKnows tid (phase.next (.coupon action) (action.perform choice.now world.coupons).1)
      (perform tid (.coupon action) choice world).2 := by
  have legal := knows.legal safe allowed
  have moves := (safe.step legal choice).2
  cases action with
  | read code =>
    have found : (CouponAction.perform choice.now (.read code) world.coupons).1 = world.coupons.records code := rfl
    cases stored : world.coupons.records code with
    | none =>
      rw [found, stored]
      exact knows
    | some record =>
      rw [found, stored]
      refine { knows with seen := fun other seen member => ?_ }
      rcases mem_cons.mp member with same | old
      · obtain ⟨rfl, rfl⟩ := Prod.mk.inj same
        exact ⟨seen, stored, .refl seen⟩
      · exact knows.seen other seen old
  | create record =>
    have aside : RouterKnows tid { phase with unborn := [] } (perform tid (.coupon (.create record)) choice world).2 :=
      RouterKnows.keep { knows with unborn := by simp } moves (.of_eq rfl rfl rfl (List.Subset.refl _)) (by simp)
    cases found : world.coupons.records record.code with
    | none =>
      have created : (CouponAction.perform choice.now (.create record) world.coupons).1 = true := by
        simp only [CouponAction.perform, CouponStore.update, found, createCoupon, Decision.result]
      have stored : (perform tid (.coupon (.create record)) choice world).2.coupons.records record.code = some record := by
        simp only [perform, CouponAction.perform, CouponStore.update, found, createCoupon, Decision.after_set,
          Function.update_self]
      rw [created]
      refine { aside with seen := fun other seen member => ?_ }
      rcases mem_cons.mp member with same | old
      · obtain ⟨rfl, rfl⟩ := Prod.mk.inj same
        exact ⟨seen, stored, .refl seen⟩
      · exact aside.seen other seen old
    | some stored =>
      have created : (CouponAction.perform choice.now (.create record) world.coupons).1 = false := by
        simp only [CouponAction.perform, CouponStore.update, found, createCoupon, Decision.result]
      rw [created]
      refine { aside with closed := fun opId member => ?_ }
      rcases mem_append.mp member with shut | old
      · cases tombstone : record.tombstone with
        | true => simp [tombstone] at shut
        | false =>
          simp only [tombstone, Bool.or_false, cond_false, mem_toList] at shut
          obtain ⟨unborn, partnerId, -, held⟩ := allowed.2 tombstone opId shut
          exact ((knows.held _ _ _ _ held).close found
            fun live => (knows.unborn opId unborn).2 record.code stored found live).keep moves
      · exact aside.closed opId old
  | enterPaying code attemptId plan =>
    obtain ⟨owner, young, fresh⟩ := legal
    have permit := (safe.enterPaying code owner young fresh plan choice).2.2
    refine { knows.later moves with claimed := knows.claimed, ops := knows.ops, minted := ?_, entered := ?_ }
    · intro id minted
      refine ⟨(knows.minted id minted).1, fun early => ?_⟩
      simp only [RouterPhase.next] at early
      split_ifs at early <;> cases early
    · intro invoiceKey other attempt entered
      simp only [RouterPhase.next] at entered
      split_ifs at entered with won
      cases entered
      exact ⟨owner, permit won⟩
  | voidIssued code partnerId refundOpId => exact { knows.aside safe (by rfl) choice with minted := by rintro _ ⟨⟩ }
  | _ => exact knows.aside safe (by rfl) choice

theorem RouterKnows.partner {action : PartnerAction} (allowed : phase.allows (.partner action)) (choice : Choice) :
    RouterKnows tid (phase.next (.partner action) (action.perform tid choice.now world.partners).1)
      (perform tid (.partner action) choice world).2 := by
  have legal := knows.legal safe allowed
  have moves := (safe.step legal choice).2
  have aside : action.quiet = true → RouterKnows tid phase (perform tid (.partner action) choice world).2 :=
    fun quiet => knows.keep moves (.of_eq rfl rfl (quiet_commits tid choice.now quiet world.partners)
      (quiet_claimants tid choice.now quiet world.partners)) fun opId member => (knows.unborn opId member).2
  cases action with
  | read partnerId =>
    refine { knows with held := fun owner opId code amountAtomic member => ?_ }
    rcases mem_append.mp member with issued | old
    · cases found : world.partners.partners partnerId with
      | none => simp [PartnerAction.perform, found] at issued
      | some partner =>
        simp only [PartnerAction.perform, found, elim_some, List.mem_map] at issued
        obtain ⟨issue, pending, same⟩ := issued
        cases same
        exact safe.pending _ partner found issue pending
    · exact knows.held owner opId code amountAtomic old
  | claimIdem partnerId key =>
    refine { aside rfl with claimed := fun partner claimed booking => ?_ }
    by_cases mine : (PartnerAction.perform tid choice.now (.claimIdem partnerId key) world.partners).1 = true
    · cases (congrArg Booking.claim (if_pos mine)).symm.trans booking
      simp only [perform, PartnerAction.perform] at mine ⊢
      rw [if_pos mine]
      exact mem_cons_self
    · cases (congrArg Booking.claim (if_neg mine)).symm.trans booking
  | writeBody entry draft =>
    have aside := aside rfl
    cases draft with
    | false => exact aside
    | true =>
      refine { aside with minted := by rintro _ ⟨⟩, claimed := fun partnerId key claimed => aside.claimed partnerId key ?_ }
      simp only [RouterPhase.next] at claimed
      rw [← claimed]
      cases phase.booking <;> rfl
  | commit partnerId mutation mutate =>
    refine { knows.later moves with
      minted := knows.minted, entered := knows.entered, claimed := ?_, ops := ?_, unborn := knows.unborn, held := ?_ }
    · intro partner key claimed
      simp only [RouterPhase.next] at claimed
      split at claimed <;> cases claimed
    · intro opId member
      obtain ⟨own, other⟩ := mem_filter.mp member
      obtain ⟨owner, young, unopened⟩ := knows.ops opId own
      refine ⟨owner, young, ?_⟩
      obtain ⟨-, same⟩ | ⟨record, next, -, -, -, -, same⟩ :=
        commit_cases tid choice.now partnerId mutation mutate world.partners
      · simp only [perform, same]
        exact unopened
      · simp only [perform, same]
        intro commit booked
        rcases mem_cons.mp booked with rfl | old
        · exact of_decide_eq_true other
        · exact unopened commit old
    · intro partner opId code amountAtomic member
      have old : (partner, opId, code, amountAtomic) ∈ phase.held →
          (perform tid (.partner (.commit partnerId mutation mutate)) choice world).2.Held partner opId code
            amountAtomic := fun held => (knows.held partner opId code amountAtomic held).keep moves
      simp only [RouterPhase.next] at member
      split at member
      next entry answered =>
        rcases mem_append.mp member with debit | held
        · obtain ⟨commit, booked, owner, key, recorded, kind, delta, -⟩ :=
            (safe.commit partnerId legal.1 choice).2.2 _ entry answered
          cases mutate with
          | recordIssue op clientKey code amountAtomic =>
            cases mem_singleton.mp debit
            obtain ⟨issue, hold, debits, -⟩ := legal.1.opens _ _ _ _ rfl
            exact ⟨commit, booked, owner, kind.trans hold, delta.trans debits, clientKey, key.trans issue, recorded⟩
          | _ => cases debit
        · exact old held
      next => exact old member
  | _ => exact aside rfl

theorem RouterKnows.env {action : EnvAction} (allowed : phase.allows (.env action)) (choice : Choice) :
    RouterKnows tid (phase.next (.env action) (action.perform tid choice world).1)
      (perform tid (.env action) choice world).2 := by
  have moves := (safe.step (knows.legal safe allowed) choice).2
  cases action with
  | randomUuid =>
    have minted : RouterKnows tid phase (perform tid (.env .randomUuid) choice world).2 :=
      knows.keep moves (.of_eq rfl rfl rfl (List.Subset.refl _)) fun opId member => (knows.unborn opId member).2
    refine { minted with minted := ?_, ops := ?_, unborn := ?_ }
    · rintro id ⟨⟩
      exact ⟨rfl, fun _ => ⟨Nat.lt_succ_self _, fun code member => Nat.lt_irrefl _ (safe.minted _ member)⟩⟩
    · intro opId member
      rcases mem_cons.mp member with rfl | old
      · exact ⟨rfl, Nat.lt_succ_self _,
          fun commit member opened => Nat.lt_irrefl _ (safe.opened commit member _ opened)⟩
      · exact minted.ops opId old
    · intro opId member
      rcases mem_cons.mp member with rfl | old
      · refine ⟨rfl, fun code record found live carries => ?_⟩
        obtain ⟨_, -, commit, member, debits⟩ := safe.backed code record found live _ carries
        obtain ⟨clientKey, -, mutate⟩ := debits.opens
        exact Nat.lt_irrefl _ (safe.opened commit member _ (congrArg Mutate.opened mutate))
      · exact minted.unborn opId old
  | send call =>
    exact { knows.later moves with
      minted := fun id minted => ⟨(knows.minted id minted).1, nofun⟩
      entered := nofun
      claimed := knows.claimed
      ops := knows.ops
      unborn := knows.unborn }
  | receive id =>
    exact knows.keep moves (.of_eq rfl rfl rfl (List.Subset.refl _)) fun opId member => (knows.unborn opId member).2
  | _ => exact knows

theorem RouterKnows.guard {action : GuardAction} (allowed : phase.allows (.guard action)) (choice : Choice) :
    RouterKnows tid (phase.next (.guard action) (action.perform choice.now world.guards).1)
      (perform tid (.guard action) choice world).2 := by
  have aside : RouterKnows tid phase (perform tid (.guard action) choice world).2 :=
    knows.keep (safe.guard_action tid action choice).2 (.of_eq rfl rfl rfl (List.Subset.refl _))
      fun opId member => (knows.unborn opId member).2
  have moved : ∀ redemption : Redemption, phase.redemption.early = true →
      (∀ invoiceKey code attemptId, redemption ≠ .entered invoiceKey code attemptId) →
      RouterKnows tid { phase with redemption } (perform tid (.guard action) choice world).2 := by
    intro redemption early unentered
    refine { aside with minted := fun id minted => ?_, entered := fun _ _ _ entered => absurd entered (unentered _ _ _) }
    obtain ⟨owner, fresh⟩ := aside.minted id minted
    exact ⟨owner, fun _ => fresh early⟩
  cases action with
  | claimInvoice invoiceKey channel ref =>
    obtain ⟨idle, -, code, rfl⟩ := allowed
    refine moved _ (by rw [idle]; rfl) fun _ _ _ entered => ?_
    split_ifs at entered
  | acquireGate invoiceKey holder rozoPaymentId =>
    obtain ⟨code, attemptId, claimed, -, rfl⟩ := allowed
    refine moved _ (by rw [claimed]; rfl) fun _ _ _ entered => ?_
    split_ifs at entered
  | _ => exact aside

end Calm

end Step

/-! ## Every run -/

/-- What a property adds to the safe world. -/
structure Extension where
  Extra : World → Prop
  admits : routerMachine.Admits
  step : ∀ tid phase action choice world, Safe world → Extra world → RouterKnows tid phase world →
    phase.allows action → admits tid action choice world → Extra (perform tid action choice world).2

/-- Nothing is added. -/
def Extension.plain : Extension where
  Extra _ := True
  admits := unrestricted routerMachine
  step _ _ _ _ _ _ _ _ _ _ := trivial

def Extension.protocol (E : Extension) : Protocol routerMachine where
  Inv world := Safe world ∧ E.Extra world
  Guar := Moves

/-- Every step of a request keeps the safe world, the extension and what the request knows. -/
theorem Extension.keeps (E : Extension) (tid : ℕ) : routerFlow.Keeps E.protocol E.admits tid (RouterKnows tid) where
  stable phase other world after distinct _ _ moves knows := by
    refine knows.keep moves (moves.beside distinct) fun opId member => ?_
    obtain ⟨owner, unborn⟩ := knows.unborn opId member
    exact unborn.keep moves fun same => distinct (same.symm.trans owner)
  step phase action allowed world inv knows choice answer after admitted performed := by
    obtain ⟨rfl, rfl⟩ := Prod.mk.inj (some.inj performed)
    obtain ⟨safe, extra⟩ := inv
    obtain ⟨kept, moves⟩ := safe.step (knows.legal safe allowed) choice
    refine ⟨⟨kept, E.step tid phase action choice world safe extra knows allowed admitted⟩, moves, ?_⟩
    cases action with
    | coupon action => exact knows.coupon safe allowed choice
    | partner action => exact knows.partner safe allowed choice
    | guard action => exact knows.guard safe allowed choice
    | env action => exact knows.env safe allowed choice

/-- Empty keys, under configured daily caps. -/
def World.initial (caps : DailySpendLedger → Option ℤ) : World where
  coupons := ⟨fun _ => none, []⟩
  partners := ⟨fun _ => none, fun _ => none, fun _ _ => none, fun _ _ => none, [], []⟩
  guards := ⟨fun _ => none, fun _ => none, fun _ _ => 0, caps, []⟩
  minted := 0
  calls := []
  answers := []

theorem safe_initial (caps : DailySpendLedger → Option ℤ) : Safe (World.initial caps) where
  sound _ _ found := nomatch found
  absent _ _ := rfl
  entered := nodup_nil
  minted _ member := nomatch member
  called := nodup_nil
  permitted _ member := nomatch member
  pending _ _ found := nomatch found
  issues _ member := nomatch member
  single := nodup_nil
  opened _ member := nomatch member
  backed _ _ found := nomatch found
  closed _ member := nomatch member
  credited _ member := nomatch member

theorem Extension.reachable (E : Extension) {caps : DailySpendLedger → Option ℤ} (extra : E.Extra (.initial caps))
    {threads : ℕ → Route Unit} (members : ∀ tid, IsRouterThread (threads tid)) {after : routerMachine.Config}
    (run : Run E.admits ⟨.initial caps, threads⟩ after) : Safe after.world ∧ E.Extra after.world := by
  have knows : ∀ tid, RouterKnows tid {} (.initial caps) :=
    fun _ => ⟨nofun, nofun, nofun, nofun, nofun, nofun, nofun, fun _ _ seen => absurd seen not_mem_nil⟩
  have inv : E.protocol.Inv (.initial caps) := ⟨safe_initial caps, extra⟩
  exact Typestate.sound E.keeps _ inv knows (fun tid => (members tid).follows) run

/-! ## One coupon -/

/-- A partner is topped up and issues a coupon; what else runs comes after. -/
def couponThreads (others : ℕ → Route Unit) : ℕ → Route Unit
  | 0 => (topupPartner { email := "partner", amountAtomic := 50, proof := "wire" }).run
  | 1 => (issuePartnerCoupon { partnerId := "p", amountAtomic := 20, expiresInMinutes := 60, clientKey := "k" }).run
  | tid + 2 => others tid

theorem couponThreads_members {others : ℕ → Route Unit} (members : ∀ tid, IsRouterThread (others tid)) :
    ∀ tid, IsRouterThread (couponThreads others tid)
  | 0 => .topup _
  | 1 => .issue _
  | tid + 2 => members tid

def toppedUp : List (ℕ × Choice) := (0, { text := "p" }) :: replicate 9 (0, .plain)

/-- The top-up, and the issue of the coupon "c". -/
def couponIssued : List (ℕ × Choice) :=
  toppedUp ++ replicate 5 (1, .plain) ++ (1, { text := "c" }) :: replicate 10 (1, .plain)

end MppRouter.Routes
