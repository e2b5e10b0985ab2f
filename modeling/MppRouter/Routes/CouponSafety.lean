import MppRouter.Routes.PartnerSteps

/-! # What every step keeps of coupons and their ledger

A coupon enters `paying` at most once more than operators have released it, and a coupon that
carries a refund is void for good. An issue is debited in the commit that records its op, so a live
coupon stands for one debit, and the credit of an op is booked only while the op's code is taken by
something else.
-/

namespace MppRouter.Routes

open Mpp Function List Option Decision

/-! ## One record -/

/-- How often an operator has released the coupon. -/
def CouponRecord.releases (record : CouponRecord) : ℕ :=
  record.events.countP fun event => event.kind = .adminRelease

def CouponEventKind.isAdmin : CouponEventKind → Bool
  | .adminVoid | .adminRelease | .adminMarkRedeemed => true
  | _ => false

/-- No operator has acted on the coupon. -/
def CouponRecord.untouched (record : CouponRecord) : Bool := record.events.all fun event => ¬ event.kind.isAdmin

/-- The attempts that may still enter `paying` without a release: one, before `paying`. -/
def CouponStatus.credit : CouponStatus → ℕ
  | .issued | .redeeming => 1
  | .paying | .redeemed | .manualReview | .void => 0

/-- A record that so many attempts have brought into `paying`. -/
structure CouponRecord.Sound (record : CouponRecord) (entered : ℕ) : Prop where
  counted : entered + record.status.credit ≤ 1 + record.releases
  voided : record.refundOpId.isSome → record.status = .void
  spent : record.untouched → entered ≠ 0 →
    record.status = .paying ∨ record.status = .redeemed ∨ record.status = .manualReview

/-- What never changes on a record that exists. -/
structure CouponRecord.Evolves (record next : CouponRecord) : Prop where
  code : next.code = record.code
  tombstone : next.tombstone = record.tombstone
  partnerId : next.partnerId = record.partnerId
  issueLedgerId : next.issueLedgerId = record.issueLedgerId
  amountAtomic : next.amountAtomic = record.amountAtomic
  refundOpId : ∀ refundOpId, record.refundOpId = some refundOpId → next.refundOpId = some refundOpId

theorem CouponRecord.Evolves.refl (record : CouponRecord) : record.Evolves record :=
  ⟨rfl, rfl, rfl, rfl, rfl, fun _ same => same⟩

theorem CouponRecord.Evolves.trans {first second third : CouponRecord} (earlier : first.Evolves second)
    (later : second.Evolves third) : first.Evolves third where
  code := later.code.trans earlier.code
  tombstone := later.tombstone.trans earlier.tombstone
  partnerId := later.partnerId.trans earlier.partnerId
  issueLedgerId := later.issueLedgerId.trans earlier.issueLedgerId
  amountAtomic := later.amountAtomic.trans earlier.amountAtomic
  refundOpId refundOpId carries := later.refundOpId refundOpId (earlier.refundOpId refundOpId carries)

@[simp] theorem CouponRecord.releases_push (record : CouponRecord) (kind : CouponEventKind) (now : ℕ) :
    (record.push kind now).releases = record.releases + if kind = .adminRelease then 1 else 0 := by
  simp [releases, push, countP_append, countP_singleton]

@[simp] theorem CouponRecord.untouched_push (record : CouponRecord) (kind : CouponEventKind) (now : ℕ) :
    (record.push kind now).untouched = (record.untouched && ¬ kind.isAdmin) := by
  simp [untouched, push, all_append]

/-- An update that keeps a sound record sound, whatever it decides. -/
def CouponDecision (record : CouponRecord) (entered : ℕ) {R : Type} (decision : Decision CouponRecord R) : Prop :=
  ∃ next, decision.after (some record) = some next ∧ record.Evolves next ∧ next.Sound entered

theorem couponDecision_noop {record : CouponRecord} {entered : ℕ} (sound : record.Sound entered) {R : Type}
    (result : R) : CouponDecision record entered (.noop result : Decision CouponRecord R) :=
  ⟨record, rfl, .refl record, sound⟩

section Updates

variable {record : CouponRecord} {entered : ℕ}

theorem CouponRecord.Sound.unrefunded (sound : record.Sound entered) (alive : record.status ≠ .void) :
    record.refundOpId = none := by
  by_contra some
  exact alive (sound.voided (isSome_iff_ne_none.mpr some))

/-- Sound again after a change that is logged as an event. -/
theorem CouponRecord.Sound.push {base : CouponRecord} {kind : CouponEventKind} {now after : ℕ}
    (counted : after + base.status.credit ≤ 1 + base.releases + if kind = .adminRelease then 1 else 0)
    (voided : base.refundOpId.isSome → base.status = .void)
    (spent : base.untouched → kind.isAdmin = false → after ≠ 0 →
      base.status = .paying ∨ base.status = .redeemed ∨ base.status = .manualReview) :
    (base.push kind now).Sound after where
  counted := by
    rw [CouponRecord.releases_push, ← add_assoc]
    exact counted
  voided := voided
  spent untouched := by
    rw [CouponRecord.untouched_push, Bool.and_eq_true] at untouched
    exact spent untouched.1 (by simpa using untouched.2)

/-- A live record moves to another live state that costs no more credit and forgets no spending. -/
theorem CouponRecord.Sound.move (sound : record.Sound entered) (alive : record.status ≠ .void)
    {base : CouponRecord} {kind : CouponEventKind} {now : ℕ} (events : base.events = record.events)
    (refund : base.refundOpId = record.refundOpId) (credit : base.status.credit ≤ record.status.credit)
    (spent : record.status = .paying ∨ record.status = .redeemed ∨ record.status = .manualReview →
      base.status = .paying ∨ base.status = .redeemed ∨ base.status = .manualReview) :
    (base.push kind now).Sound entered := by
  have releases : base.releases = record.releases := by simp only [CouponRecord.releases, events]
  have untouched : base.untouched = record.untouched := by simp only [CouponRecord.untouched, events]
  have counted := sound.counted
  apply CouponRecord.Sound.push
  · omega
  · rw [refund, sound.unrefunded alive]
    exact fun some => nomatch some
  · rw [untouched]
    exact fun calm _ entered => spent (sound.spent calm entered)

section Attempted

variable (sound : record.Sound entered) (attemptId : Uuid)

include sound

theorem claimCoupon_keeps (plId : String) (now : ℕ) :
    CouponDecision record entered (claimCoupon attemptId plId now (some record)) := by
  cases status : record.status with
  | issued =>
    simp only [claimCoupon, status]
    split_ifs
    · exact couponDecision_noop sound _
    · refine ⟨_, rfl, ⟨rfl, rfl, rfl, rfl, rfl, fun _ same => same⟩, ?_⟩
      apply sound.move <;> simp [status, CouponStatus.credit]
  | redeeming =>
    simp only [claimCoupon, status]
    split_ifs
    · refine ⟨_, rfl, ⟨rfl, rfl, rfl, rfl, rfl, fun _ same => same⟩, ?_⟩
      apply sound.move <;> simp [status, CouponStatus.credit]
    · exact couponDecision_noop sound _
    · exact couponDecision_noop sound _
  | paying =>
    simp only [claimCoupon, status]
    split_ifs <;> exact couponDecision_noop sound _
  | manualReview =>
    simp only [claimCoupon, status]
    split_ifs <;> exact couponDecision_noop sound _
  | redeemed =>
    simp only [claimCoupon, status]
    split_ifs <;> exact couponDecision_noop sound _
  | void =>
    simp only [claimCoupon, status]
    exact couponDecision_noop sound _

theorem rollbackToIssued_keeps (now : ℕ) :
    CouponDecision record entered (rollbackToIssued attemptId now (some record)) := by
  simp only [rollbackToIssued]
  split_ifs with foreign
  · exact couponDecision_noop sound _
  · have status : record.status = .redeeming := not_not.mp (not_or.mp foreign).1
    refine ⟨_, rfl, ⟨rfl, rfl, rfl, rfl, rfl, fun _ same => same⟩, ?_⟩
    apply sound.move <;> simp [status, CouponStatus.credit]

theorem finalizeCoupon_keeps (failureReason : Option String)
    (now : ℕ) : CouponDecision record entered (finalizeCoupon attemptId failureReason now (some record)) := by
  simp only [finalizeCoupon]
  split_ifs with foreign
  · exact couponDecision_noop sound _
  · have status : record.status = .paying := not_not.mp (not_or.mp foreign).1
    cases failureReason with
    | none =>
      refine ⟨_, rfl, ⟨rfl, rfl, rfl, rfl, rfl, fun _ same => same⟩, ?_⟩
      apply sound.move <;> simp [status, CouponStatus.credit]
    | some reason =>
      refine ⟨_, rfl, ⟨rfl, rfl, rfl, rfl, rfl, fun _ same => same⟩, ?_⟩
      apply sound.move <;> simp [status, CouponStatus.credit]

/-- The step into `paying` is refused and changes nothing, or it uses up the record's credit. -/
theorem enterPaying_cases (plan : PaymentPlan) (now : ℕ) : enterPaying attemptId plan now (some record) = .noop false ∨
    ∃ next, enterPaying attemptId plan now (some record) = .set next true ∧ record.Evolves next ∧
      next.Sound (entered + 1) := by
  simp only [enterPaying]
  by_cases foreign : record.status ≠ .redeeming ∨ record.attemptId ≠ some attemptId
  · exact .inl (if_pos foreign)
  · have status : record.status = .redeeming := not_not.mp (not_or.mp foreign).1
    rw [if_neg foreign]
    have counted := sound.counted
    simp only [status, CouponStatus.credit] at counted
    refine .inr ⟨_, rfl, ⟨rfl, rfl, rfl, rfl, rfl, fun _ same => same⟩, ?_⟩
    apply CouponRecord.Sound.push
    · change entered + 1 + 0 ≤ 1 + record.releases + 0
      omega
    · rw [sound.unrefunded (by simp [status])]
      exact fun some => nomatch some
    · exact fun _ _ _ => .inl rfl

end Attempted

theorem CouponStatus.alive_of_resolvable {status : CouponStatus} (resolvable : status.resolvable = true) :
    status ≠ .void := by
  rintro rfl
  cases resolvable

theorem resolveCoupon_keeps (sound : record.Sound entered) (action : ResolveAction) (now : ℕ) :
    CouponDecision record entered (resolveCoupon action now (some record)) := by
  have counted := sound.counted
  cases action with
  | void =>
    refine ⟨_, rfl, ⟨rfl, rfl, rfl, rfl, rfl, fun _ same => same⟩, ?_⟩
    apply CouponRecord.Sound.push
    · change entered + 0 ≤ 1 + record.releases + 0
      omega
    · exact fun _ => rfl
    · exact fun _ calm => nomatch calm
  | release =>
    simp only [resolveCoupon]
    split_ifs with resolvable
    · have unrefunded := sound.unrefunded (CouponStatus.alive_of_resolvable resolvable)
      refine ⟨_, rfl, ⟨rfl, rfl, rfl, rfl, rfl, fun _ same => same⟩, ?_⟩
      apply CouponRecord.Sound.push
      · change entered + 1 ≤ 1 + record.releases + 1
        omega
      · rw [unrefunded]
        exact fun some => nomatch some
      · exact fun _ calm => nomatch calm
    · exact couponDecision_noop sound _
  | markRedeemed =>
    simp only [resolveCoupon]
    split_ifs with resolvable
    · have unrefunded := sound.unrefunded (CouponStatus.alive_of_resolvable resolvable)
      refine ⟨_, rfl, ⟨rfl, rfl, rfl, rfl, rfl, fun _ same => same⟩, ?_⟩
      apply CouponRecord.Sound.push
      · change entered + 0 ≤ 1 + record.releases + 0
        omega
      · rw [unrefunded]
        exact fun some => nomatch some
      · exact fun _ calm => nomatch calm
    · exact couponDecision_noop sound _

theorem voidIssued_keeps (sound : record.Sound entered) (partnerId : String) (refundOpId : Uuid) (now : ℕ) :
    CouponDecision record entered (voidIssued partnerId refundOpId now (some record)) := by
  simp only [voidIssued]
  split_ifs with dead foreign moved
  · exact couponDecision_noop sound _
  · exact couponDecision_noop sound _
  · exact couponDecision_noop sound _
  · have status : record.status = .issued := not_not.mp moved
    have unrefunded := sound.unrefunded (by simp [status])
    have counted := sound.counted
    simp only [status, CouponStatus.credit] at counted
    refine ⟨_, rfl, ⟨rfl, rfl, rfl, rfl, rfl, ?_⟩, ?_⟩
    · rw [unrefunded]
      exact fun _ same => nomatch same
    · apply CouponRecord.Sound.push
      · change entered + 0 ≤ 1 + record.releases + 0
        omega
      · exact fun _ => rfl
      · intro untouched _ spent
        have late := sound.spent untouched spent
        simp [status] at late

theorem stampRefund_keeps (sound : record.Sound entered) (refundOpId ledgerId : Uuid) (credited : Bool) :
    CouponDecision record entered (stampRefund refundOpId ledgerId credited (some record)) := by
  simp only [stampRefund]
  split_ifs with foreign
  · exact couponDecision_noop sound _
  · exact ⟨_, rfl, ⟨rfl, rfl, rfl, rfl, rfl, fun _ same => same⟩, sound.counted, sound.voided, sound.spent⟩
  · exact ⟨_, rfl, ⟨rfl, rfl, rfl, rfl, rfl, fun _ same => same⟩, sound.counted, sound.voided, sound.spent⟩

end Updates


/-! ## The world -/

/-- How many attempts have brought a coupon into `paying`. -/
def CouponStore.enteredBy (store : CouponStore) (code : String) : ℕ :=
  store.entered.countP fun entry => entry.1 = code

/-- The coupon attempt that sends a call. -/
def PayCaller.attempt : PayCaller → Option (String × Uuid)
  | .coupon code attemptId => some (code, attemptId)

/-- The coupon attempts that have sent a call. -/
def World.couponCalls (world : World) : List (String × Uuid) :=
  world.calls.filterMap fun call => call.caller.attempt

/-- The op that a mutation records. -/
def Mutate.opened : Mutate → Option Uuid
  | .recordIssue opId _ _ _ => some opId
  | _ => none

/-- The commit debits an issue and records its op for a code. -/
structure Commit.Debits (commit : Commit) (partnerId : String) (opId : Uuid) (code : String)
    (amountAtomic : ℤ) : Prop where
  partner : commit.partnerId = partnerId
  kind : commit.entry.kind = .issueHold
  delta : commit.entry.deltaAtomic = -amountAtomic
  opens : ∃ clientKey, commit.key = .issue clientKey ∧ commit.mutate = .recordIssue opId clientKey code amountAtomic

/-- The op was debited for this code. -/
def World.Held (world : World) (partnerId : String) (opId : Uuid) (code : String) (amountAtomic : ℤ) : Prop :=
  ∃ commit ∈ world.partners.commits, commit.Debits partnerId opId code amountAtomic

/-- No live coupon carries the op. -/
def World.Unborn (world : World) (opId : Uuid) : Prop :=
  ∀ code record, world.coupons.records code = some record → record.tombstone = false →
    record.issueLedgerId ≠ some opId

/-- No mutation recorded the op. -/
def World.Unopened (world : World) (opId : Uuid) : Prop :=
  opId.serial < world.minted ∧ ∀ commit ∈ world.partners.commits, commit.mutate.opened ≠ some opId

/-- The attempt has not entered `paying`. -/
def World.Fresh (world : World) (attemptId : Uuid) : Prop :=
  attemptId.serial < world.minted ∧ ∀ code, (code, attemptId) ∉ world.coupons.entered

/-- The attempt has entered `paying` and not sent its call yet. -/
def World.Permit (world : World) (code : String) (attemptId : Uuid) : Prop :=
  (code, attemptId) ∈ world.coupons.entered ∧ (code, attemptId) ∉ world.couponCalls

/-- The op was debited for a code that something else has taken since. -/
def World.Closed (world : World) (opId : Uuid) : Prop :=
  ∃ partnerId code amountAtomic, world.Held partnerId opId code amountAtomic ∧
    ∃ record, world.coupons.records code = some record ∧ (record.tombstone = false → record.issueLedgerId ≠ some opId)

/-- The coupon carries a refund authorised under this op. -/
def World.Refundable (world : World) (code : String) (refundOpId : Uuid) : Prop :=
  ∃ record, world.coupons.records code = some record ∧ record.refundOpId = some refundOpId

/-- The coupon half of a safe world. -/
structure World.Entries (world : World) : Prop where
  sound : ∀ code record, world.coupons.records code = some record →
    record.code = code ∧ record.Sound (world.coupons.enteredBy code)
  absent : ∀ code, world.coupons.records code = none → world.coupons.enteredBy code = 0
  entered : world.coupons.entered.Nodup
  minted : ∀ entry ∈ world.coupons.entered, entry.2.serial < world.minted
  called : world.couponCalls.Nodup
  permitted : ∀ entry ∈ world.couponCalls, entry ∈ world.coupons.entered

structure Safe (world : World) : Prop extends world.Entries where
  pending : ∀ partnerId partner, world.partners.partners partnerId = some partner →
    ∀ issue ∈ partner.pendingIssues, world.Held partnerId issue.opId issue.code issue.amountAtomic
  issues : ∀ commit ∈ world.partners.commits, ∀ clientKey, commit.key = .issue clientKey →
    ∃ opId code amountAtomic, commit.Debits commit.partnerId opId code amountAtomic
  single : (world.partners.commits.filterMap fun commit => commit.mutate.opened).Nodup
  opened : ∀ commit ∈ world.partners.commits, ∀ opId, commit.mutate.opened = some opId → opId.serial < world.minted
  backed : ∀ code record, world.coupons.records code = some record → record.tombstone = false →
    ∀ opId, record.issueLedgerId = some opId → ∃ partnerId, record.partnerId = some partnerId ∧
      world.Held partnerId opId code record.amountAtomic
  closed : ∀ commit ∈ world.partners.commits, ∀ opId, commit.key = .issueRefund opId → world.Closed opId
  credited : ∀ commit ∈ world.partners.commits, ∀ refundOpId, commit.key = .refund refundOpId →
    ∃ code, commit.entry.ref = some code ∧ world.Refundable code refundOpId

/-- What a thread guarantees of its own steps: the histories grow by what it owns, records evolve. -/
structure Moves (tid : ℕ) (before after : World) : Prop where
  entered : ∃ new, after.coupons.entered = new ++ before.coupons.entered ∧ ∀ entry ∈ new, entry.2.owner = tid
  calls : ∃ new, after.couponCalls = new ++ before.couponCalls ∧ ∀ entry ∈ new, entry.2.owner = tid
  commits : ∃ new, after.partners.commits = new ++ before.partners.commits ∧
    ∀ commit ∈ new, ∀ opId, commit.mutate.opened = some opId → opId.owner = tid
  kept : ∀ code record, before.coupons.records code = some record →
    ∃ next, after.coupons.records code = some next ∧ record.Evolves next
  born : ∀ code record, before.coupons.records code = none → after.coupons.records code = some record →
    record.tombstone = false → ∀ opId, record.issueLedgerId = some opId → opId.owner = tid
  minted : before.minted ≤ after.minted
  claimants : ∀ claim ∈ before.partners.claimants, claim.1 ≠ tid → claim ∈ after.partners.claimants

section Steps

variable {world after : World} {tid : ℕ}

variable {code : String}

theorem World.Held.keep (moves : Moves tid world after) {partnerId : String}
    {opId : Uuid} {amountAtomic : ℤ} (held : world.Held partnerId opId code amountAtomic) :
    after.Held partnerId opId code amountAtomic := by
  obtain ⟨commit, member, debits⟩ := held
  obtain ⟨new, grown, -⟩ := moves.commits
  exact ⟨commit, grown ▸ mem_append_right _ member, debits⟩

theorem World.Closed.keep (moves : Moves tid world after) {opId : Uuid} (closed : world.Closed opId) :
    after.Closed opId := by
  obtain ⟨partnerId, code, amountAtomic, ⟨commit, member, debits⟩, record, found, other⟩ := closed
  obtain ⟨new, grown, -⟩ := moves.commits
  obtain ⟨next, stored, evolves⟩ := moves.kept code record found
  refine ⟨partnerId, code, amountAtomic, ⟨commit, ?_, debits⟩, next, stored, ?_⟩
  · rw [grown]
    exact mem_append_right _ member
  · rw [evolves.tombstone, evolves.issueLedgerId]
    exact other

theorem World.Refundable.keep (moves : Moves tid world after) {refundOpId : Uuid}
    (refundable : world.Refundable code refundOpId) : after.Refundable code refundOpId := by
  obtain ⟨record, found, carries⟩ := refundable
  obtain ⟨next, stored, evolves⟩ := moves.kept code record found
  exact ⟨next, stored, evolves.refundOpId _ carries⟩

/-- A step that commits nothing keeps the books, when a coupon that is born stands for a debit. -/
theorem Safe.of_moves (safe : Safe world) (moves : Moves tid world after) (entries : after.Entries)
    (commits : after.partners.commits = world.partners.commits)
    (pending : ∀ partnerId partner, after.partners.partners partnerId = some partner → ∀ issue ∈ partner.pendingIssues,
      ∃ before, world.partners.partners partnerId = some before ∧ issue ∈ before.pendingIssues)
    (born : ∀ code record, world.coupons.records code = none → after.coupons.records code = some record →
      record.tombstone = false → ∀ opId, record.issueLedgerId = some opId →
        ∃ partnerId, record.partnerId = some partnerId ∧ world.Held partnerId opId code record.amountAtomic) :
    Safe after where
  toEntries := entries
  pending partnerId partner found issue member := by
    obtain ⟨before, stored, old⟩ := pending partnerId partner found issue member
    exact (safe.pending partnerId before stored issue old).keep moves
  issues := commits ▸ safe.issues
  single := commits ▸ safe.single
  opened := by
    rw [commits]
    exact fun commit member opId opens => lt_of_lt_of_le (safe.opened commit member opId opens) moves.minted
  backed code record found live opId carries := by
    cases before : world.coupons.records code with
    | none =>
      obtain ⟨partnerId, owner, debited⟩ := born code record before found live opId carries
      exact ⟨partnerId, owner, debited.keep moves⟩
    | some earlier =>
      obtain ⟨next, stored, evolves⟩ := moves.kept code earlier before
      obtain rfl := some.inj (found.symm.trans stored)
      rw [evolves.tombstone] at live
      rw [evolves.issueLedgerId] at carries
      obtain ⟨partnerId, owner, debited⟩ := safe.backed code earlier before live opId carries
      rw [evolves.partnerId, evolves.amountAtomic]
      exact ⟨partnerId, owner, debited.keep moves⟩
  closed := by
    rw [commits]
    exact fun commit member opId refunds => (safe.closed commit member opId refunds).keep moves
  credited := by
    rw [commits]
    intro commit member refundOpId credits
    obtain ⟨code, ref, refundable⟩ := safe.credited commit member refundOpId credits
    exact ⟨code, ref, refundable.keep moves⟩

/-- A step that touches neither coupons nor partners nor calls. -/
theorem Safe.frame (safe : Safe world) (coupons : after.coupons = world.coupons)
    (partners : after.partners = world.partners) (calls : after.calls = world.calls)
    (minted : world.minted ≤ after.minted) : Safe after ∧ Moves tid world after := by
  have moves : Moves tid world after := by
    refine ⟨⟨[], by rw [coupons]; rfl, fun _ => nofun⟩, ⟨[], by rw [World.couponCalls, calls]; rfl, fun _ => nofun⟩,
      ⟨[], by rw [partners]; rfl, fun _ => nofun⟩, ?_, ?_, minted, fun _ member _ => partners ▸ member⟩
    · intro code record found
      exact ⟨record, by rw [coupons, found], .refl record⟩
    · intro code record missing found
      rw [coupons, missing] at found
      cases found
  refine ⟨safe.of_moves moves ?_ (by rw [partners]) ?_ ?_, moves⟩
  · refine ⟨coupons ▸ safe.sound, coupons ▸ safe.absent, coupons ▸ safe.entered, ?_, ?_, ?_⟩
    · rw [coupons]
      exact fun entry member => lt_of_lt_of_le (safe.minted entry member) minted
    · rw [World.couponCalls, calls]
      exact safe.called
    · rw [World.couponCalls, calls, coupons]
      exact safe.permitted
  · rw [partners]
    exact fun _ partner found issue member => ⟨partner, found, member⟩
  · rw [coupons]
    exact fun code record missing found => nomatch missing.symm.trans found

/-! ### Coupon keys -/

/-- Replacing an existing record, by an attempt that may have entered `paying` with it. -/
theorem Safe.update_record (safe : Safe world) {record next : CouponRecord}
    (found : world.coupons.records code = some record) (evolves : record.Evolves next)
    (new : List (String × Uuid))
    (owned : ∀ entry ∈ new, entry.1 = code ∧ entry.2.owner = tid ∧ entry.2.serial < world.minted)
    (nodup : (new ++ world.coupons.entered).Nodup)
    (sound : next.Sound (new.length + world.coupons.enteredBy code))
    (here : after.coupons.records code = some next)
    (there : ∀ other, other ≠ code → after.coupons.records other = world.coupons.records other)
    (entered : after.coupons.entered = new ++ world.coupons.entered)
    (partners : after.partners = world.partners) (calls : after.calls = world.calls)
    (minted : after.minted = world.minted) : Safe after ∧ Moves tid world after := by
  have called : after.couponCalls = world.couponCalls := by rw [World.couponCalls, calls]; rfl
  have moves : Moves tid world after := by
    refine ⟨⟨new, entered, fun entry member => (owned entry member).2.1⟩, ⟨[], called, fun _ => nofun⟩,
      ⟨[], by rw [partners]; rfl, fun _ => nofun⟩, ?_, ?_, le_of_eq minted.symm,
      fun _ member _ => partners ▸ member⟩
    · intro other stored present
      by_cases same : other = code
      · subst same
        obtain rfl := some.inj (found.symm.trans present)
        exact ⟨next, here, evolves⟩
      · exact ⟨stored, (there other same).trans present, .refl stored⟩
    · intro other stored missing present
      by_cases same : other = code
      · subst same
        cases found.symm.trans missing
      · cases missing.symm.trans ((there other same).symm.trans present)
  have count : ∀ other, after.coupons.enteredBy other =
      (if other = code then new.length else 0) + world.coupons.enteredBy other := by
    intro other
    have split : new.countP (fun entry => entry.1 = other) = if other = code then new.length else 0 := by
      split_ifs with same
      · rw [countP_eq_length]
        exact fun entry member => by simp [(owned entry member).1, same]
      · rw [countP_eq_zero]
        exact fun entry member => by simp [(owned entry member).1, Ne.symm same]
    simp only [CouponStore.enteredBy, entered, countP_append, split]
  refine ⟨safe.of_moves moves ?_ (by rw [partners]) ?_ ?_, moves⟩
  · constructor
    case sound =>
      intro other stored present
      rw [count]
      by_cases same : other = code
      · subst same
        obtain rfl := some.inj (here.symm.trans present)
        rw [if_pos rfl]
        exact ⟨evolves.code.trans (safe.sound _ _ found).1, sound⟩
      · rw [if_neg same, zero_add]
        exact safe.sound other stored ((there other same).symm.trans present)
    case absent =>
      intro other missing
      rw [count]
      by_cases same : other = code
      · subst same
        cases here.symm.trans missing
      · rw [if_neg same, zero_add]
        exact safe.absent other ((there other same).symm.trans missing)
    case entered =>
      rw [entered]
      exact nodup
    case minted =>
      rw [entered, minted]
      intro entry member
      rcases mem_append.mp member with fresh | old
      · exact (owned entry fresh).2.2
      · exact safe.minted entry old
    case called =>
      rw [called]
      exact safe.called
    case permitted =>
      rw [called, entered]
      exact fun entry member => mem_append_right _ (safe.permitted entry member)
  · rw [partners]
    exact fun _ partner found issue member => ⟨partner, found, member⟩
  · intro other stored missing present
    by_cases same : other = code
    · subst same
      cases found.symm.trans missing
    · cases missing.symm.trans ((there other same).symm.trans present)

/-- An update function that never creates and keeps sound records sound. -/
theorem Safe.update_coupon (safe : Safe world) (code : String) {R : Type}
    (fn : Option CouponRecord → Decision CouponRecord R) (missing : (fn none).after none = none)
    (present : ∀ record entered, record.Sound entered → CouponDecision record entered (fn (some record))) :
    Safe { world with coupons := (world.coupons.update code fn).2 } ∧
      Moves tid world { world with coupons := (world.coupons.update code fn).2 } := by
  cases found : world.coupons.records code with
  | none =>
    have unchanged : (world.coupons.update code fn).2 = world.coupons := by
      simp only [CouponStore.update, found, missing]
      rw [← found, update_eq_self]
    exact safe.frame unchanged rfl rfl le_rfl
  | some record =>
    obtain ⟨next, decided, evolves, sound⟩ := present record _ (safe.sound code record found).2
    rw [← zero_add (world.coupons.enteredBy code)] at sound
    refine safe.update_record found evolves [] (fun _ => nofun) safe.entered sound ?_ ?_ rfl rfl rfl rfl
    · simp only [CouponStore.update, found, decided, update_self]
    · exact fun other same => update_of_ne same ..

/-- An attempt that owns a fresh id enters `paying`, or is refused and changes nothing. -/
theorem Safe.enterPaying (safe : Safe world) (code : String) {attemptId : Uuid} (owner : attemptId.owner = tid)
    (young : attemptId.serial < world.minted) (fresh : ∀ other, (other, attemptId) ∉ world.coupons.entered)
    (plan : PaymentPlan) (choice : Choice) :
    Safe (perform tid (.coupon (.enterPaying code attemptId plan)) choice world).2 ∧
      Moves tid world (perform tid (.coupon (.enterPaying code attemptId plan)) choice world).2 ∧
      ((perform tid (.coupon (.enterPaying code attemptId plan)) choice world).1 = true →
        (code, attemptId) ∈ (perform tid (.coupon (.enterPaying code attemptId plan)) choice world).2.coupons.entered ∧
        (code, attemptId) ∉ (perform tid (.coupon (.enterPaying code attemptId plan)) choice world).2.couponCalls) := by
  have uncalled : (code, attemptId) ∉ world.couponCalls := fun called => fresh code (safe.permitted _ called)
  cases found : world.coupons.records code with
  | none =>
    have unchanged : update world.coupons.records code none = world.coupons.records := by
      rw [← found, update_eq_self]
    simp only [perform, CouponAction.perform, CouponStore.update, found, Routes.enterPaying, result,
      after_noop, unchanged]
    rw [← and_assoc]
    exact ⟨safe.frame rfl rfl rfl le_rfl, by rintro ⟨⟩⟩
  | some record =>
    obtain decided | ⟨next, decided, evolves, sound⟩ :=
      enterPaying_cases (safe.sound code record found).2 attemptId plan choice.now
    · have unchanged : update world.coupons.records code (some record) = world.coupons.records := by
        rw [← found, update_eq_self]
      simp only [perform, CouponAction.perform, CouponStore.update, found, decided, result,
        after_noop, unchanged]
      rw [← and_assoc]
      exact ⟨safe.frame rfl rfl rfl le_rfl, by rintro ⟨⟩⟩
    · simp only [perform, CouponAction.perform, CouponStore.update, found, decided, result,
        after_set, if_true]
      have owned : ∀ entry ∈ [(code, attemptId)],
          entry.1 = code ∧ entry.2.owner = tid ∧ entry.2.serial < world.minted := by
        intro entry member
        obtain rfl := mem_singleton.mp member
        exact ⟨rfl, owner, young⟩
      rw [add_comm] at sound
      rw [← and_assoc]
      refine ⟨?_, fun _ => ⟨mem_cons_self, uncalled⟩⟩
      exact safe.update_record found evolves [(code, attemptId)] owned
        (nodup_cons.mpr ⟨fresh code, safe.entered⟩) sound (update_self ..)
        (fun other same => update_of_ne same ..) rfl rfl rfl rfl

/-- Creating a coupon: at a code nobody holds, and live only for an op that was debited. -/
theorem Safe.create (safe : Safe world) {record : CouponRecord} (sound : record.Sound 0)
    (debited : record.tombstone = false → ∀ opId, record.issueLedgerId = some opId → opId.owner = tid ∧
      ∃ partnerId, record.partnerId = some partnerId ∧
        world.Held partnerId opId record.code record.amountAtomic) (choice : Choice) :
    Safe (perform tid (.coupon (.create record)) choice world).2 ∧
      Moves tid world (perform tid (.coupon (.create record)) choice world).2 := by
  cases found : world.coupons.records record.code with
  | some other =>
    simp only [perform, CouponAction.perform, CouponStore.update, found, createCoupon, after_noop]
    rw [← found, update_eq_self]
    exact safe.frame rfl rfl rfl le_rfl
  | none =>
    simp only [perform, CouponAction.perform, CouponStore.update, found, createCoupon, after_set]
    have here : update world.coupons.records record.code (some record) record.code = some record :=
      update_self ..
    have there : ∀ other, other ≠ record.code →
        update world.coupons.records record.code (some record) other = world.coupons.records other :=
      fun other same => update_of_ne same ..
    have moves : Moves tid world { world with coupons := { world.coupons with
        records := update world.coupons.records record.code (some record) } } := by
      refine ⟨⟨[], rfl, fun _ => nofun⟩, ⟨[], rfl, fun _ => nofun⟩, ⟨[], rfl, fun _ => nofun⟩, ?_, ?_,
        le_rfl, fun _ member _ => member⟩
      · intro other stored present
        have distinct : other ≠ record.code := by
          rintro rfl
          cases found.symm.trans present
        exact ⟨stored, (there other distinct).trans present, .refl stored⟩
      · intro other stored missing present live opId carries
        by_cases same : other = record.code
        · subst same
          obtain rfl := some.inj (here.symm.trans present)
          exact (debited live opId carries).1
        · cases missing.symm.trans ((there other same).symm.trans present)
    refine ⟨safe.of_moves moves ?_ rfl (fun _ partner found issue member => ⟨partner, found, member⟩) ?_, moves⟩
    · constructor
      case entered => exact safe.entered
      case minted => exact safe.minted
      case called => exact safe.called
      case permitted => exact safe.permitted
      case sound =>
        intro other stored present
        by_cases same : other = record.code
        · subst same
          obtain rfl := some.inj (here.symm.trans present)
          rw [← safe.absent record.code found] at sound
          exact ⟨rfl, sound⟩
        · exact safe.sound other stored ((there other same).symm.trans present)
      case absent =>
        intro other missing
        by_cases same : other = record.code
        · subst same
          cases here.symm.trans missing
        · exact safe.absent other ((there other same).symm.trans missing)
    · intro other stored missing present live opId carries
      by_cases same : other = record.code
      · subst same
        obtain rfl := some.inj (here.symm.trans present)
        exact (debited live opId carries).2
      · cases missing.symm.trans ((there other same).symm.trans present)

/-! ### Partner keys -/

/-- An update of partner keys that commits no mutation and opens no op. -/
theorem Safe.update_partners (safe : Safe world) {partners : PartnerStore}
    (commits : partners.commits = world.partners.commits)
    (claimants : ∀ claim ∈ world.partners.claimants, claim.1 ≠ tid → claim ∈ partners.claimants)
    (pending : ∀ partnerId partner, partners.partners partnerId = some partner → ∀ issue ∈ partner.pendingIssues,
      ∃ before, world.partners.partners partnerId = some before ∧ issue ∈ before.pendingIssues) :
    Safe { world with partners } ∧ Moves tid world { world with partners } := by
  have moves : Moves tid world { world with partners } :=
    ⟨⟨[], rfl, fun _ => nofun⟩, ⟨[], rfl, fun _ => nofun⟩, ⟨[], commits, fun _ => nofun⟩,
      fun _ record found => ⟨record, found, .refl record⟩, fun _ _ missing found => (nomatch missing.symm.trans found),
      le_rfl, claimants⟩
  refine ⟨safe.of_moves moves ?_ commits pending ?_, moves⟩
  · exact ⟨safe.sound, safe.absent, safe.entered, safe.minted, safe.called, safe.permitted⟩
  · exact fun code record missing found => nomatch missing.symm.trans found

/-- A step that commits nothing opens no op. -/
theorem Safe.partner_action (safe : Safe world) (tid : ℕ) {action : PartnerAction} (quiet : action.quiet = true)
    (choice : Choice) :
    Safe (perform tid (.partner action) choice world).2 ∧
      Moves tid world (perform tid (.partner action) choice world).2 := by
  refine safe.update_partners (quiet_commits tid choice.now quiet world.partners)
    (fun claim member _ => quiet_claimants tid choice.now quiet world.partners member) ?_
  intro partnerId partner found issue member
  have change := quiet_change tid choice.now quiet world.partners partnerId
  have stored : (action.perform tid choice.now world.partners).2.partners partnerId = some partner := found
  rw [stored] at change
  generalize world.partners.partners partnerId = current at change ⊢
  cases change with
  | same => exact ⟨partner, rfl, member⟩
  | created performs => cases member
  | confirmed performs before couponIndex => exact ⟨before, rfl, mem_of_mem_eraseP member⟩
  | _ => exact ⟨_, rfl, member⟩

/-! ### Commits -/

theorem Mutate.apply_issues {mutate : Mutate} {now : ℕ} {partner next : PartnerRecord}
    (applied : mutate.apply now partner = .ok next) (issue : PendingIssue) (member : issue ∈ next.pendingIssues) :
    issue ∈ partner.pendingIssues ∨
      mutate = .recordIssue issue.opId issue.clientKey issue.code issue.amountAtomic := by
  rw [Mutate.apply_eq applied] at member
  cases mutate with
  | recordIssue opId clientKey code amountAtomic =>
    rcases mem_cons.mp member with rfl | old
    · exact .inr rfl
    · exact .inl old
  | dropIssue opId => exact .inl (mem_of_mem_eraseP member)
  | _ => exact .inl member

/-- A mutation that may be committed: an issue opens an op of the thread's own, the refund of an op finds it
closed, the refund of a void finds its authorisation on the coupon. -/
structure MutationSound (tid : ℕ) (world : World) (mutation : LedgerMutation) (mutate : Mutate) : Prop where
  opens : ∀ opId clientKey code amountAtomic, mutate = .recordIssue opId clientKey code amountAtomic →
    mutation.idempotencyKey = .issue clientKey ∧ mutation.draft.kind = .issueHold ∧
      mutation.draft.deltaAtomic = -amountAtomic ∧ opId.owner = tid ∧ opId.serial < world.minted ∧
      ∀ commit ∈ world.partners.commits, commit.mutate.opened ≠ some opId
  issues : ∀ clientKey, mutation.idempotencyKey = .issue clientKey →
    ∃ opId code amountAtomic, mutate = .recordIssue opId clientKey code amountAtomic
  closes : ∀ opId, mutation.idempotencyKey = .issueRefund opId → world.Closed opId
  credits : ∀ refundOpId, mutation.idempotencyKey = .refund refundOpId →
    ∃ code, mutation.draft.ref = some code ∧ world.Refundable code refundOpId

/-- The mutation was booked on the partner record. -/
def World.Booked (world : World) (partnerId : String) (mutation : LedgerMutation) (mutate : Mutate) : Prop :=
  ∃ commit ∈ world.partners.commits, commit.partnerId = partnerId ∧ commit.key = mutation.idempotencyKey ∧
    commit.mutate = mutate ∧ commit.entry.kind = mutation.draft.kind ∧
    commit.entry.deltaAtomic = mutation.draft.deltaAtomic ∧ commit.entry.ref = mutation.draft.ref

/-- Appending a sound commit to the history. -/
theorem Safe.book (safe : Safe world) (commit : Commit)
    (opens : ∀ opId, commit.mutate.opened = some opId → opId.owner = tid ∧ opId.serial < world.minted ∧
      ∀ earlier ∈ world.partners.commits, earlier.mutate.opened ≠ some opId)
    (issues : ∀ clientKey, commit.key = .issue clientKey →
      ∃ opId code amountAtomic, commit.Debits commit.partnerId opId code amountAtomic)
    (closes : ∀ opId, commit.key = .issueRefund opId → world.Closed opId)
    (credits : ∀ refundOpId, commit.key = .refund refundOpId →
      ∃ code, commit.entry.ref = some code ∧ world.Refundable code refundOpId)
    {partners : PartnerStore}
    (pending : ∀ partnerId partner, partners.partners partnerId = some partner → ∀ issue ∈ partner.pendingIssues,
      (∃ before, world.partners.partners partnerId = some before ∧ issue ∈ before.pendingIssues) ∨
        commit.Debits partnerId issue.opId issue.code issue.amountAtomic)
    (commits : partners.commits = commit :: world.partners.commits)
    (claimants : ∀ claim ∈ world.partners.claimants, claim.1 ≠ tid → claim ∈ partners.claimants) :
    Safe { world with partners } ∧ Moves tid world { world with partners } := by
  have moves : Moves tid world { world with partners } := by
    refine ⟨⟨[], rfl, fun _ => nofun⟩, ⟨[], rfl, fun _ => nofun⟩, ⟨[commit], commits, ?_⟩,
      fun _ record found => ⟨record, found, .refl record⟩, fun _ _ missing found => (nomatch missing.symm.trans found),
      le_rfl, claimants⟩
    intro new member opId opened
    obtain rfl := mem_singleton.mp member
    exact (opens opId opened).1
  have held : ∀ partnerId opId code amountAtomic, world.Held partnerId opId code amountAtomic →
      World.Held { world with partners } partnerId opId code amountAtomic := fun _ _ _ _ held => held.keep moves
  refine ⟨?_, moves⟩
  constructor
  case toEntries => exact ⟨safe.sound, safe.absent, safe.entered, safe.minted, safe.called, safe.permitted⟩
  case pending =>
    intro partnerId partner found issue member
    rcases pending partnerId partner found issue member with ⟨before, stored, old⟩ | debits
    · exact held _ _ _ _ (safe.pending partnerId before stored issue old)
    · exact ⟨commit, commits ▸ mem_cons_self, debits⟩
  case issues =>
    rw [commits]
    intro new member clientKey key
    rcases mem_cons.mp member with rfl | old
    · exact issues clientKey key
    · exact safe.issues new old clientKey key
  case single =>
    rw [commits, filterMap_cons]
    split
    next => exact safe.single
    next opId opened =>
      refine nodup_cons.mpr ⟨fun again => ?_, safe.single⟩
      obtain ⟨earlier, booked, same⟩ := mem_filterMap.mp again
      exact (opens opId opened).2.2 earlier booked same
  case opened =>
    rw [commits]
    intro new member opId opened
    rcases mem_cons.mp member with rfl | old
    · exact (opens opId opened).2.1
    · exact safe.opened new old opId opened
  case backed =>
    intro code record found live opId carries
    obtain ⟨partnerId, owner, debited⟩ := safe.backed code record found live opId carries
    exact ⟨partnerId, owner, held _ _ _ _ debited⟩
  case closed =>
    rw [commits]
    intro new member opId refunds
    rcases mem_cons.mp member with rfl | old
    · exact (closes opId refunds).keep moves
    · exact (safe.closed new old opId refunds).keep moves
  case credited =>
    rw [commits]
    intro new member refundOpId refunds
    have authorised : ∃ code, new.entry.ref = some code ∧ world.Refundable code refundOpId := by
      rcases mem_cons.mp member with rfl | old
      · exact credits refundOpId refunds
      · exact safe.credited new old refundOpId refunds
    obtain ⟨code, ref, refundable⟩ := authorised
    exact ⟨code, ref, refundable.keep moves⟩

theorem Safe.commit (safe : Safe world) (partnerId : String) {mutation : LedgerMutation} {mutate : Mutate}
    (sound : MutationSound tid world mutation mutate) (choice : Choice) :
    Safe (perform tid (.partner (.commit partnerId mutation mutate)) choice world).2 ∧
      Moves tid world (perform tid (.partner (.commit partnerId mutation mutate)) choice world).2 ∧
      ∀ partner entry,
        (perform tid (.partner (.commit partnerId mutation mutate)) choice world).1 = .ok (partner, some entry) →
        (perform tid (.partner (.commit partnerId mutation mutate)) choice world).2.Booked partnerId mutation
          mutate := by
  have others : ∀ claim ∈ world.partners.claimants, claim.1 ≠ tid →
      claim ∈ world.partners.claimants.filter fun claim => claim ≠ (tid, partnerId, mutation.idempotencyKey) := by
    intro claim member foreign
    refine mem_filter.mpr ⟨member, decide_eq_true fun same => foreign ?_⟩
    rw [same]
  obtain ⟨refused, same⟩ | ⟨record, next, found, -, -, applied, same⟩ :=
    commit_cases tid choice.now partnerId mutation mutate world.partners
  · rw [← and_assoc]
    refine ⟨?_, fun partner entry answered => absurd answered (refused partner entry)⟩
    simp only [perform, same]
    exact safe.update_partners rfl others fun _ partner found issue member => ⟨partner, found, member⟩
  · rw [← and_assoc]
    simp only [perform, same]
    refine ⟨safe.book _ ?_ ?_ sound.closes sound.credits ?_ rfl others,
      fun _ _ _ => ⟨_, mem_cons_self, rfl, rfl, rfl, rfl, rfl, rfl⟩⟩
    · intro opId opened
      cases recorded : mutate with
      | recordIssue op clientKey code amountAtomic =>
        obtain rfl : op = opId := some.inj ((congrArg Mutate.opened recorded).symm.trans opened)
        obtain ⟨-, -, -, owner, young, fresh⟩ := sound.opens op clientKey code amountAtomic recorded
        exact ⟨owner, young, fresh⟩
      | _ => cases (congrArg Mutate.opened recorded).symm.trans opened
    · intro clientKey key
      obtain ⟨opId, code, amountAtomic, recorded⟩ := sound.issues clientKey key
      obtain ⟨-, kind, delta, -⟩ := sound.opens _ _ _ _ recorded
      exact ⟨opId, code, amountAtomic, rfl, kind, delta, clientKey, key, recorded⟩
    · intro other stored present issue member
      dsimp only at present
      by_cases same : other = partnerId
      · subst same
        rw [update_self] at present
        obtain rfl := some.inj present
        rcases Mutate.apply_issues applied issue member with old | recorded
        · exact .inl ⟨record, found, old⟩
        · obtain ⟨key, kind, delta, -⟩ := sound.opens _ _ _ _ recorded
          exact .inr ⟨rfl, kind, delta, issue.clientKey, key, recorded⟩
      · rw [update_of_ne same] at present
        exact .inl ⟨stored, present, member⟩

/-! ### Calls, guards and the rest -/

/-- An attempt that has entered `paying` sends its one call. -/
theorem Safe.send (safe : Safe world) {attemptId : Uuid} (owner : attemptId.owner = tid)
    (entered : (code, attemptId) ∈ world.coupons.entered) (uncalled : (code, attemptId) ∉ world.couponCalls)
    (invoiceKey : String) (choice : Choice) :
    Safe (perform tid (.env (.send ⟨invoiceKey, .coupon code attemptId⟩)) choice world).2 ∧
      Moves tid world (perform tid (.env (.send ⟨invoiceKey, .coupon code attemptId⟩)) choice world).2 := by
  simp only [perform, EnvAction.perform]
  have moves : Moves tid world { world with calls := ⟨invoiceKey, .coupon code attemptId⟩ :: world.calls } := by
    refine ⟨⟨[], rfl, fun _ => nofun⟩, ⟨[(code, attemptId)], rfl, ?_⟩, ⟨[], rfl, fun _ => nofun⟩,
      fun _ record found => ⟨record, found, .refl record⟩, fun _ _ missing found => (nomatch missing.symm.trans found),
      le_rfl, fun _ member _ => member⟩
    intro entry member
    obtain rfl := mem_singleton.mp member
    exact owner
  refine ⟨{ safe with called := nodup_cons.mpr ⟨uncalled, safe.called⟩, permitted := ?_ }, moves⟩
  intro entry member
  rcases mem_cons.mp member with rfl | old
  · exact entered
  · exact safe.permitted entry old

/-- The exchanges with the outside that send nothing. -/
def EnvAction.quiet : EnvAction → Bool
  | .send _ => false
  | _ => true

theorem Safe.env_action (safe : Safe world) (tid : ℕ) {action : EnvAction} (quiet : action.quiet = true)
    (choice : Choice) :
    Safe (perform tid (.env action) choice world).2 ∧ Moves tid world (perform tid (.env action) choice world).2 := by
  cases action with
  | send call => cases quiet
  | randomUuid => exact safe.frame rfl rfl rfl (Nat.le_succ _)
  | _ => exact safe.frame rfl rfl rfl le_rfl

theorem Safe.guard_action (safe : Safe world) (tid : ℕ) (action : GuardAction) (choice : Choice) :
    Safe (perform tid (.guard action) choice world).2 ∧
      Moves tid world (perform tid (.guard action) choice world).2 :=
  safe.frame rfl rfl rfl le_rfl

/-- The coupon actions that neither create nor enter `paying`. -/
def CouponAction.quiet : CouponAction → Bool
  | .create _ | .enterPaying _ _ _ => false
  | _ => true

theorem Safe.coupon_action (safe : Safe world) (tid : ℕ) {action : CouponAction} (quiet : action.quiet = true)
    (choice : Choice) :
    Safe (perform tid (.coupon action) choice world).2 ∧
      Moves tid world (perform tid (.coupon action) choice world).2 := by
  cases action with
  | read code => exact safe.frame rfl rfl rfl le_rfl
  | create record => cases quiet
  | claim code attemptId plId =>
    exact safe.update_coupon code _ rfl fun _ _ sound => claimCoupon_keeps sound attemptId plId choice.now
  | rollback code attemptId =>
    exact safe.update_coupon code _ rfl fun _ _ sound => rollbackToIssued_keeps sound attemptId choice.now
  | enterPaying code attemptId plan => cases quiet
  | finalize code attemptId failureReason =>
    exact safe.update_coupon code _ rfl fun _ _ sound => finalizeCoupon_keeps sound attemptId failureReason choice.now
  | resolve code action =>
    exact safe.update_coupon code _ rfl fun _ _ sound => resolveCoupon_keeps sound action choice.now
  | voidIssued code partnerId refundOpId =>
    exact safe.update_coupon code _ rfl fun _ _ sound => voidIssued_keeps sound partnerId refundOpId choice.now
  | stampRefund code refundOpId ledgerId credited =>
    exact safe.update_coupon code _ rfl fun _ _ sound => stampRefund_keeps sound refundOpId ledgerId credited

/-! ### Every action -/

/-- What a thread has made sure of before an action. -/
def Legal (tid : ℕ) (action : Action) (world : World) : Prop :=
  match action with
  | .coupon (.create record) => record.Sound 0 ∧ (record.tombstone = false → ∀ opId,
      record.issueLedgerId = some opId → opId.owner = tid ∧ ∃ partnerId, record.partnerId = some partnerId ∧
        world.Held partnerId opId record.code record.amountAtomic)
  | .coupon (.enterPaying _ attemptId _) => attemptId.owner = tid ∧ world.Fresh attemptId
  | .partner (.commit partnerId mutation mutate) => MutationSound tid world mutation mutate ∧
      (tid, partnerId, mutation.idempotencyKey) ∈ world.partners.claimants
  | .env (.send call) => ∃ code attemptId, call.caller = .coupon code attemptId ∧ attemptId.owner = tid ∧
      world.Permit code attemptId
  | _ => True

/-- Every legal step keeps the world safe and its thread's guarantee. -/
theorem Safe.step (safe : Safe world) {action : Action} (legal : Legal tid action world) (choice : Choice) :
    Safe (perform tid action choice world).2 ∧ Moves tid world (perform tid action choice world).2 := by
  cases action with
  | guard action => exact safe.guard_action tid action choice
  | coupon action =>
    cases action with
    | create record => exact safe.create legal.1 legal.2 choice
    | enterPaying code attemptId plan =>
      obtain ⟨owner, young, fresh⟩ := legal
      have entering := safe.enterPaying code owner young fresh plan choice
      exact ⟨entering.1, entering.2.1⟩
    | _ => exact safe.coupon_action tid rfl choice
  | partner action =>
    cases action with
    | commit partnerId mutation mutate =>
      have committed := safe.commit partnerId legal.1 choice
      exact ⟨committed.1, committed.2.1⟩
    | _ => exact safe.partner_action tid rfl choice
  | env action =>
    cases action with
    | send call =>
      obtain ⟨invoiceKey, caller⟩ := call
      obtain ⟨code, attemptId, rfl, owner, entered, uncalled⟩ := legal
      exact safe.send owner entered uncalled invoiceKey choice
    | _ => exact safe.env_action tid rfl choice

end Steps

/-! ## What a safe world says -/

section Consequences

variable {world : World}

/-- How many pay-invoice calls have been sent for a coupon. -/
def World.paid (world : World) (code : String) : ℕ := world.couponCalls.countP fun entry => entry.1 = code

theorem Safe.paid_le_entered (safe : Safe world) (code : String) : world.paid code ≤ world.coupons.enteredBy code :=
  (subperm_of_subset safe.called safe.permitted).countP_le _

variable {code : String} {record : CouponRecord}

/-- A coupon is paid at most once more than it was released. -/
theorem Safe.paid_le (safe : Safe world)
    (found : world.coupons.records code = some record) : world.paid code ≤ 1 + record.releases := by
  have paid := safe.paid_le_entered code
  have counted := (safe.sound code record found).2.counted
  omega

theorem Safe.unpaid_of_absent (safe : Safe world) (missing : world.coupons.records code = none) :
    world.paid code = 0 := by
  have paid := safe.paid_le_entered code
  have absent := safe.absent code missing
  omega

/-- A coupon that no operator has touched and whose refund was authorised was never paid. -/
theorem Safe.unpaid_of_refundable (safe : Safe world)
    (found : world.coupons.records code = some record) (untouched : record.untouched = true) {refundOpId : Uuid}
    (refundable : world.Refundable code refundOpId) : world.paid code = 0 := by
  obtain ⟨stored, present, carries⟩ := refundable
  obtain rfl := some.inj (found.symm.trans present)
  obtain ⟨-, sound⟩ := safe.sound code record found
  have void : record.status = .void := sound.voided (by simp [carries])
  have unspent : world.coupons.enteredBy code = 0 := by
    by_contra entered
    have late := sound.spent untouched entered
    simp [void] at late
  have paid := safe.paid_le_entered code
  omega

/-- What a duplicate-free selection selects twice is one element. -/
theorem eq_of_nodup_filterMap {α β : Type} {select : α → Option β} {items : List α}
    (nodup : (items.filterMap select).Nodup) {left right : α} (first : left ∈ items) (second : right ∈ items)
    {value : β} (selects : select left = some value) (again : select right = some value) : left = right := by
  have symm : Std.Symm fun a b => ∀ value, select a = some value → ∀ other, select b = some other → value ≠ other :=
    ⟨fun _ _ apart value selects other again => (apart other again value selects).symm⟩
  by_contra distinct
  exact (pairwise_filterMap.mp nodup).forall first second distinct value selects value again rfl

/-- Two debits that record one op are the same commit. -/
theorem Safe.debit_unique (safe : Safe world) {left right : Commit} (first : left ∈ world.partners.commits)
    (second : right ∈ world.partners.commits) {opId : Uuid} (opens : left.mutate.opened = some opId)
    (again : right.mutate.opened = some opId) : left = right :=
  eq_of_nodup_filterMap safe.single first second opens again

/-- The debit of a live coupon is never returned under its op. -/
theorem Safe.live_not_closed (safe : Safe world)
    (found : world.coupons.records code = some record) (live : record.tombstone = false) {opId : Uuid}
    (carries : record.issueLedgerId = some opId) : ¬ world.Closed opId := by
  rintro ⟨partnerId, taken, amountAtomic, ⟨left, first, debits⟩, other, present, foreign⟩
  obtain ⟨owner, -, right, second, backs⟩ := safe.backed code record found live opId carries
  obtain ⟨clientKey, -, mutate⟩ := debits.opens
  obtain ⟨otherKey, -, otherMutate⟩ := backs.opens
  obtain rfl := safe.debit_unique first second (congrArg Mutate.opened mutate) (congrArg Mutate.opened otherMutate)
  obtain ⟨-, -, rfl, -⟩ := Mutate.recordIssue.inj (mutate.symm.trans otherMutate)
  obtain rfl := some.inj (found.symm.trans present)
  exact foreign live carries

end Consequences

end MppRouter.Routes
