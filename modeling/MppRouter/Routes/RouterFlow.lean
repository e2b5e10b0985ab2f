import MppRouter.Core.Performs
import MppRouter.Routes.CouponSafety
import MppRouter.Routes.Partner
import MppRouter.Routes.Redeem

/-! # The flow of a router request

Every ledger mutation claims its key, drafts the body of its entry under a fresh id, commits and fills the
body in; every redemption takes the claim and the gate of its invoice before it enters `paying` and sends.
The walks below check this once for all requests, together with what a request has read of coupons and
breadcrumbs by then.
-/

namespace MppRouter.Routes

open Concurrent Mpp Typestate List

/-- Where a request stands with its ledger mutation. -/
inductive Booking where
  | idle
  | claimed (partnerId : String) (key : LedgerKey)
  | drafted (partnerId : String) (key : LedgerKey) (draft : LedgerEntry)
  | booked (partnerId : String) (key : LedgerKey) (entry : LedgerEntry)
  deriving DecidableEq, Repr

/-- The debit that a mutation records for a partner. -/
def Mutate.holds (partnerId : String) : Mutate → List (String × Uuid × String × ℤ)
  | .recordIssue opId _ code amountAtomic => [(partnerId, opId, code, amountAtomic)]
  | _ => []

def Booking.draft (entry : LedgerEntry) : Booking → Booking
  | .claimed partnerId key => .drafted partnerId key entry
  | booking => booking

/-- Where a redemption stands with the guards of its invoice. -/
inductive Redemption where
  | idle
  | claimed (invoiceKey code : String)
  | gated (invoiceKey code : String)
  /-- The coupon is `paying` and the call is not sent. -/
  | entered (invoiceKey code : String) (attemptId : Uuid)
  /-- The coupon was lost, and the guards are given back. -/
  | lost (invoiceKey code : String)
  | sent
  deriving DecidableEq, Repr

/-- What a request knows of its work so far. -/
structure RouterPhase where
  /-- The latest id minted, as long as it is used nowhere. -/
  minted : Option Uuid := none
  booking : Booking := .idle
  redemption : Redemption := .idle
  /-- The coupons read, under their codes. -/
  seen : List (String × CouponRecord) := []
  /-- The breadcrumbs read: partner and code. -/
  crumbs : List (String × String) := []
  /-- The ids minted that no mutation has recorded. -/
  ops : List Uuid := []
  /-- The ids minted that no coupon carries. -/
  unborn : List Uuid := []
  /-- The debits known: partner, op, code and amount. -/
  held : List (String × Uuid × String × ℤ) := []
  /-- The ops whose code something else has taken. -/
  closed : List Uuid := []
  deriving DecidableEq, Repr

namespace RouterPhase

/-- The coupon is known to be the partner's. -/
def Belongs (phase : RouterPhase) (partnerId code : String) : Prop :=
  (partnerId, code) ∈ phase.crumbs ∨ ∃ record, (code, record) ∈ phase.seen ∧ record.partnerId = some partnerId

/-- The op was debited, and its code is known to be taken by something else. -/
def Shuts (phase : RouterPhase) (opId : Uuid) : Prop :=
  opId ∈ phase.closed ∨ ∃ partnerId code amountAtomic record, (partnerId, opId, code, amountAtomic) ∈ phase.held ∧
    (code, record) ∈ phase.seen ∧ (record.tombstone = true ∨ record.issuedBy partnerId opId = false)

/-- An issue debits an op of the request's own, and the refund of an op finds it closed. -/
def Debits (phase : RouterPhase) (mutation : LedgerMutation) (mutate : Mutate) : Prop :=
  (∀ opId clientKey code amountAtomic, mutate = .recordIssue opId clientKey code amountAtomic →
    mutation.idempotencyKey = .issue clientKey ∧ mutation.draft.kind = .issueHold ∧
      mutation.draft.deltaAtomic = -amountAtomic ∧ opId ∈ phase.ops) ∧
  (∀ clientKey, mutation.idempotencyKey = .issue clientKey →
    ∃ opId code amountAtomic, mutate = .recordIssue opId clientKey code amountAtomic) ∧
  ∀ opId, mutation.idempotencyKey = .issueRefund opId → phase.Shuts opId

/-- The credit of a void follows the coupon that authorises it; nothing else drops a breadcrumb. -/
def Credits (phase : RouterPhase) (partnerId : String) (mutation : LedgerMutation) (mutate : Mutate) : Prop :=
  match mutation.idempotencyKey with
  | .refund refundOpId => ∃ code record, (code, record) ∈ phase.seen ∧ record.refundOpId = some refundOpId ∧
      mutation.draft.ref = some code ∧ mutation.draft.deltaAtomic = record.amountAtomic ∧
      mutate = .dropRefund code ∧ phase.Belongs partnerId code
  | _ => ∀ code, mutate ≠ .dropRefund code

def allows (phase : RouterPhase) : Action → Prop
  | .partner (.writeBody entry true) =>
    phase.minted = some entry.id ∧ ∃ key, phase.booking = .claimed entry.partnerId key
  | .partner (.writeBody entry false) => ∃ partnerId key, phase.booking = .booked partnerId key entry
  | .partner (.commit partnerId mutation mutate) =>
    phase.booking = .drafted partnerId mutation.idempotencyKey mutation.draft ∧
      mutation.draft.partnerId = partnerId ∧ phase.Credits partnerId mutation mutate ∧
      phase.Debits mutation mutate
  | .partner (.releaseIdem _ key) | .partner (.removeApplied _ key) => ∃ clientKey, key = .issue clientKey
  | .partner (.recordPendingRefund partnerId _ code _ _) => phase.Belongs partnerId code
  | .coupon (.create record) => record.refundOpId = none ∧ (record.tombstone = false → ∀ opId,
      record.issueLedgerId = some opId → opId ∈ phase.unborn ∧ ∃ partnerId, record.partnerId = some partnerId ∧
        (partnerId, opId, record.code, record.amountAtomic) ∈ phase.held)
  | .coupon (.voidIssued _ _ refundOpId) => phase.minted = some refundOpId
  | .coupon (.enterPaying code attemptId plan) =>
    phase.minted = some attemptId ∧ phase.redemption = .gated plan.invoiceKey code
  | .guard (.claimInvoice _ channel ref) => phase.redemption = .idle ∧ channel = .crypto ∧ ∃ code, ref = .coupon code
  | .guard (.acquireGate invoiceKey holder _) => ∃ code attemptId, phase.redemption = .claimed invoiceKey code ∧
      phase.minted = some attemptId ∧ holder = .coupon code attemptId
  | .guard (.releaseInvoice invoiceKey channel ref) => ∃ code, phase.redemption = .lost invoiceKey code ∧
      channel = .crypto ∧ ref = .coupon code
  | .guard (.releaseGate invoiceKey holder) => ∃ code attemptId, phase.redemption = .lost invoiceKey code ∧
      phase.minted = some attemptId ∧ holder = .coupon code attemptId
  | .env (.send call) => ∃ code attemptId, phase.redemption = .entered call.invoiceKey code attemptId ∧
      phase.minted = some attemptId ∧ call.caller = .coupon code attemptId
  | _ => True

def next (phase : RouterPhase) : (action : Action) → action.Answer → RouterPhase
  | .env .randomUuid, id => { phase with minted := some id, ops := id :: phase.ops, unborn := id :: phase.unborn }
  | .env (.send _), _ => { phase with redemption := .sent }
  | .partner (.claimIdem partnerId key), mine =>
    { phase with booking := if mine then .claimed partnerId key else .idle }
  | .partner (.writeBody entry true), _ => { phase with minted := none, booking := phase.booking.draft entry }
  | .partner (.commit partnerId mutation mutate), answer =>
    { phase with
      booking := match answer with
        | .ok (_, some entry) => .booked partnerId mutation.idempotencyKey entry
        | _ => .idle
      ops := phase.ops.filter fun opId => mutate.opened ≠ some opId
      held := match answer with
        | .ok (_, some _) => mutate.holds partnerId ++ phase.held
        | _ => phase.held }
  | .partner (.read partnerId), partner =>
    let refunds := partner.elim [] fun partner => partner.pendingRefunds.map fun refund => (partnerId, refund.code)
    let issues := partner.elim [] fun partner => partner.pendingIssues.map fun issue =>
      (partnerId, issue.opId, issue.code, issue.amountAtomic)
    { phase with crumbs := refunds ++ phase.crumbs, held := issues ++ phase.held }
  | .coupon (.read code), record =>
    { phase with seen := record.elim phase.seen fun record => (code, record) :: phase.seen }
  | .coupon (.create record), created =>
    { phase with
      seen := if created then (record.code, record) :: phase.seen else phase.seen
      unborn := []
      closed := (bif created || record.tombstone then [] else record.issueLedgerId.toList) ++ phase.closed }
  | .coupon (.voidIssued _ _ _), _ => { phase with minted := none, unborn := [] }
  | .coupon (.enterPaying code attemptId plan), entered =>
    { phase with
      unborn := []
      redemption := if entered then .entered plan.invoiceKey code attemptId else .lost plan.invoiceKey code }
  | .coupon _, _ => { phase with unborn := [] }
  | .guard (.claimInvoice invoiceKey _ (.coupon code)), claim =>
    { phase with redemption := if claim.isOk then .claimed invoiceKey code else .idle }
  | .guard (.acquireGate invoiceKey (.coupon code _) _), inTheWay =>
    { phase with redemption := if inTheWay.isNone then .gated invoiceKey code else .idle }
  | _, _ => phase

/-- What was read stays read. -/
structure Extends (phase after : RouterPhase) : Prop where
  seen : phase.seen ⊆ after.seen
  crumbs : phase.crumbs ⊆ after.crumbs
  held : phase.held ⊆ after.held
  closed : phase.closed ⊆ after.closed

theorem Extends.refl (phase : RouterPhase) : phase.Extends phase :=
  ⟨List.Subset.refl _, List.Subset.refl _, List.Subset.refl _, List.Subset.refl _⟩

theorem Extends.trans {first second third : RouterPhase} (earlier : first.Extends second)
    (later : second.Extends third) : first.Extends third :=
  ⟨List.Subset.trans earlier.seen later.seen, List.Subset.trans earlier.crumbs later.crumbs,
    List.Subset.trans earlier.held later.held, List.Subset.trans earlier.closed later.closed⟩

theorem Extends.belongs {phase after : RouterPhase} (extends_ : phase.Extends after) {partnerId code : String}
    (belongs : phase.Belongs partnerId code) : after.Belongs partnerId code := by
  rcases belongs with crumb | ⟨record, seen, owner⟩
  · exact .inl (extends_.crumbs crumb)
  · exact .inr ⟨record, extends_.seen seen, owner⟩

theorem Extends.shuts {phase after : RouterPhase} (extends_ : phase.Extends after) {opId : Uuid}
    (shuts : phase.Shuts opId) : after.Shuts opId := by
  rcases shuts with closed | ⟨partnerId, code, amountAtomic, record, held, seen, other⟩
  · exact .inl (extends_.closed closed)
  · exact .inr ⟨partnerId, code, amountAtomic, record, extends_.held held, extends_.seen seen, other⟩

end RouterPhase

/-- The phases of a request, as a typestate. -/
def routerFlow : Typestate routerMachine := ⟨RouterPhase, RouterPhase.allows, RouterPhase.next⟩

theorem next_extends (phase : RouterPhase) (action : Action) (answer : action.Answer) :
    phase.Extends (phase.next action answer) := by
  have refl := RouterPhase.Extends.refl phase
  cases action with
  | coupon action =>
    cases action with
    | read code =>
      cases answer with
      | none => exact refl
      | some record => exact { refl with seen := subset_cons_self _ _ }
    | create record =>
      cases answer with
      | true => exact { refl with seen := subset_cons_self _ _, closed := subset_append_right _ _ }
      | false => exact { refl with closed := subset_append_right _ _ }
    | _ => exact { refl with }
  | partner action =>
    cases action with
    | read partnerId => exact { refl with crumbs := subset_append_right _ _, held := subset_append_right _ _ }
    | writeBody entry draft => cases draft <;> exact { refl with }
    | commit partnerId mutation mutate =>
      refine { refl with held := ?_ }
      show phase.held ⊆ match answer with | .ok (_, some _) => _ | _ => _
      split
      · exact subset_append_right _ _
      · exact refl.held
    | _ => exact { refl with }
  | guard action =>
    cases action with
    | claimInvoice invoiceKey channel ref => cases ref <;> exact { refl with }
    | acquireGate invoiceKey holder rozoPaymentId => cases holder <;> exact { refl with }
    | _ => exact { refl with }
  | env action => cases action <;> exact { refl with }

section Walk

variable {α : Type} {phase : RouterPhase}

/-- The actions of a repair pass: refunds under keys of their own, and tombstones. -/
def Mends : Action → Prop
  | .partner (.claimIdem _ key) | .partner (.settleIdem _ key _ _) => ∀ clientKey, key ≠ .issue clientKey
  | .partner (.commit _ mutation mutate) => (∀ clientKey, mutation.idempotencyKey ≠ .issue clientKey) ∧ mutate.opened = none
  | .partner (.releaseIdem _ _) => False
  | .coupon (.create record) => record.tombstone = true
  | .coupon (.read _) | .coupon (.stampRefund _ _ _ _) => True
  | .coupon _ | .guard _ => False
  | _ => True

def mendFlow : Typestate routerMachine := routerFlow.relax fun phase action => routerFlow.allowed phase action ∧ Mends action

theorem Follows.mended {route : Route α} {post : α → RouterPhase → Prop} (follows : mendFlow.Follows route post phase) :
    routerFlow.Follows route post phase :=
  @Follows.relax _ mendFlow _ _ _ _ routerFlow.allowed (fun _ _ => And.left) follows

theorem Follows.extends {route : Route α} {post : α → RouterPhase → Prop} (follows : mendFlow.Follows route post phase) :
    mendFlow.Follows route (fun value after => post value after ∧ phase.Extends after) phase :=
  @Follows.frame _ mendFlow _ phase _ _ RouterPhase.Extends .refl (fun _ _ _ => .trans) next_extends follows

/-! ## The partner ledger -/

/-- The caller's conditions do not depend on what the ledger call itself does. A debit that is applied is known. -/
theorem follows_applyLedger (partnerId : String) {input : LedgerInput} {mutate : Mutate}
    (minted : phase.minted = some input.entryId)
    (credits : ∀ now, phase.Credits partnerId
      ⟨input.draft partnerId now, input.idempotencyKey, input.couponCode⟩ mutate)
    (debits : ∀ now, phase.Debits ⟨input.draft partnerId now, input.idempotencyKey, input.couponCode⟩ mutate) :
    routerFlow.Follows (applyLedger partnerId input mutate) (fun result after => after.unborn = phase.unborn ∧
      ∀ answer, result = .ok answer → answer.applied = true → mutate.holds partnerId ⊆ after.held) phase := by
  refine Follows.ask trivial fun mine => ?_
  split_ifs with won
  · refine Follows.ask trivial fun now => ?_
    have claimed : (phase.next (.partner (.claimIdem partnerId input.idempotencyKey)) mine).booking =
        .claimed partnerId input.idempotencyKey := if_pos won
    refine Follows.ask ⟨minted, _, claimed⟩ fun _ => ?_
    refine Follows.ask ⟨?_, rfl, credits now, debits now⟩ fun answer => ?_
    · exact congrArg (Booking.draft (input.draft partnerId now)) claimed
    · cases answer with
      | error failure => exact ⟨rfl, fun _ same => nomatch same⟩
      | ok booking =>
        obtain ⟨partner, entry⟩ := booking
        cases entry with
        | none =>
          refine Follows.bind (Follows.ask trivial fun _ => ⟨rfl, ?_⟩)
          rintro _ ⟨⟩ applied
          cases applied
        | some entry =>
          refine Follows.ask ⟨partnerId, _, rfl⟩ fun _ => ?_
          exact Follows.ask trivial fun _ => ⟨rfl, fun _ _ _ => subset_append_left _ _⟩
  · refine Follows.ask trivial fun partner => ⟨rfl, ?_⟩
    rintro _ ⟨⟩ applied
    cases applied

theorem backfillBody_mends (entry : Option LedgerEntry) : (backfillBody entry).Performs Mends := by
  cases entry with
  | none => exact trivial
  | some entry => exact ⟨trivial, fun _ => trivial⟩

theorem applyLedger_mends {partnerId : String} {input : LedgerInput} {mutate : Mutate} (foreign : ∀ clientKey, input.idempotencyKey ≠ .issue clientKey)
    (dropping : mutate.opened = none) : (applyLedger partnerId input mutate).Performs Mends := by
  refine Prog.Performs.ask foreign fun mine => ?_
  split_ifs
  · refine Prog.Performs.ask trivial fun now => Prog.Performs.ask trivial fun _ => ?_
    refine Prog.Performs.ask ⟨foreign, dropping⟩ fun answer => ?_
    cases answer with
    | error failure => exact trivial
    | ok booking =>
      obtain ⟨partner, entry⟩ := booking
      apply Prog.Performs.bind (backfillBody_mends entry)
      exact fun _ => Prog.Performs.ask foreign fun _ => trivial
  · exact Prog.Performs.ask trivial fun partner => trivial

theorem follows_getOrCreatePartnerByEmail (email : String) :
    routerFlow.Follows (getOrCreatePartnerByEmail email) anyhow phase := by
  refine Follows.ask trivial fun candidateId => ?_
  refine Follows.ask trivial fun ownerId => ?_
  exact Follows.call trivial fun partner => trivial

theorem follows_topupPartner (input : TopupInput) :
    routerFlow.Follows (topupPartner input) anyhow phase := by
  unfold topupPartner
  split_ifs
  · exact trivial
  · refine Follows.bind ((follows_getOrCreatePartnerByEmail input.email).mono fun partner phase _ => ?_)
    refine Follows.ask trivial fun entryId => ?_
    refine (follows_applyLedger partner.id rfl ?_ fun now => ?_).loose
    · intro now code same
      cases same
    · exact ⟨nofun, nofun, nofun⟩

theorem follows_refundPendingIssue (partnerId : String) {opId : Uuid} (reason : String) (shuts : phase.Shuts opId) :
    mendFlow.Follows (refundPendingIssue partnerId opId reason) anyhow phase := by
  refine Follows.ask ⟨trivial, trivial⟩ fun partner => ?_
  have reads := (next_extends phase (.partner (.read partnerId)) partner).shuts shuts
  cases partner.bind fun partner => partner.pendingIssues.find? fun issue => issue.opId = opId with
  | none => exact trivial
  | some issue =>
    refine Follows.ask ⟨trivial, trivial⟩ fun entryId => ?_
    refine Follows.bind (Follows.mono (Follows.both (follows_applyLedger partnerId rfl ?_ fun now => ?_)
      (applyLedger_mends (by simp) rfl)) fun applied phase _ => ?_)
    · intro now code same
      cases same
    · refine ⟨nofun, nofun, ?_⟩
      rintro _ ⟨⟩
      exact reads
    · cases applied <;> exact trivial

theorem follows_releaseIdempotency (partnerId clientKey : String) :
    routerFlow.Follows (releaseIdempotency partnerId (.issue clientKey)) anyhow phase :=
  Follows.ask ⟨clientKey, rfl⟩ fun _ => Follows.call ⟨clientKey, rfl⟩ fun _ => trivial

/-- The credit of a void is drafted from the coupon as it was read. -/
theorem follows_settlePendingRefundById {partnerId code : String} (refundOpId : Uuid)
    (belongs : phase.Belongs partnerId code) :
    mendFlow.Follows (settlePendingRefundById partnerId code refundOpId) anyhow phase := by
  refine Follows.ask ⟨trivial, trivial⟩ fun record => ?_
  cases record with
  | none => exact trivial
  | some record =>
    dsimp only
    split_ifs with foreign
    · exact trivial
    · refine Follows.ask ⟨trivial, trivial⟩ fun entryId => ?_
      refine Follows.ask ⟨trivial, trivial⟩ fun partner => ?_
      have reads := next_extends phase (.coupon (.read code)) (some record)
      have rereads := next_extends (routerFlow.next phase (.coupon (.read code)) (some record))
        (.partner (.read partnerId)) partner
      refine Follows.bind (Follows.mono (Follows.both (follows_applyLedger partnerId rfl (fun now => ?_) fun now => ?_)
        (applyLedger_mends (by simp) rfl)) fun applied phase _ => ?_)
      · refine ⟨code, record, mem_cons_self, not_not.mp foreign, rfl, rfl, rfl, ?_⟩
        exact rereads.belongs (reads.belongs belongs)
      · exact ⟨nofun, nofun, nofun⟩
      · cases applied with
        | error failure => exact trivial
        | ok result => exact Follows.ask ⟨trivial, trivial⟩ fun _ => trivial

theorem follows_settlePendingRefund {partnerId : String} {pending : PendingRefund}
    (belongs : phase.Belongs partnerId pending.code) :
    mendFlow.Follows (settlePendingRefund partnerId pending) anyhow phase := by
  refine Follows.ask ⟨trivial, trivial⟩ fun record => ?_
  have reads := next_extends phase (.coupon (.read pending.code)) record
  cases record.bind fun record => if record.status = .void then record.refundOpId else none with
  | none => exact Follows.ask ⟨trivial, trivial⟩ fun _ => trivial
  | some refundOpId =>
    refine Follows.bind ((follows_settlePendingRefundById refundOpId (reads.belongs belongs)).mono
      fun settled phase _ => ?_)
    cases settled <;> exact trivial

/-- An abandoned issue is refunded only when its code is taken by something else. -/
theorem follows_reconcileIssue {partnerId : String} (now : ℕ) {issue : PendingIssue}
    (held : (partnerId, issue.opId, issue.code, issue.amountAtomic) ∈ phase.held) :
    mendFlow.Follows (reconcileIssue partnerId now issue) anyhow phase := by
  have confirm : ∀ (phase : RouterPhase) record, mendFlow.Follows (do
      let _ ← onPartner (.confirmPendingIssue partnerId issue.opId (indexEntryOf record))
      pure (.ok ()) : Route (Except PartnerError Unit)) anyhow phase :=
    fun _ _ => Follows.ask ⟨trivial, trivial⟩ fun _ => trivial
  refine Follows.ask ⟨trivial, trivial⟩ fun record => ?_
  cases record with
  | some record =>
    dsimp only
    split_ifs with dead ours
    · exact follows_refundPendingIssue _ _ (.inr ⟨_, _, _, record, held, mem_cons_self, .inl dead⟩)
    · exact confirm _ _
    · exact follows_refundPendingIssue _ _
        (.inr ⟨_, _, _, record, held, mem_cons_self, .inr (Bool.eq_false_iff.mpr ours)⟩)
  | none =>
    refine Follows.ask ⟨⟨rfl, fun live => nomatch live⟩, rfl⟩ fun created => ?_
    split_ifs with won
    · subst won
      exact follows_refundPendingIssue _ _ (.inr ⟨_, _, _, _, held, mem_cons_self, .inl rfl⟩)
    · refine Follows.ask ⟨trivial, trivial⟩ fun record => ?_
      cases record with
      | none => exact trivial
      | some record =>
        dsimp only
        split_ifs with dead
        · exact follows_refundPendingIssue _ _ (.inr ⟨_, _, _, record, held, mem_cons_self, .inl dead⟩)
        · exact confirm _ _
        · exact trivial

theorem follows_reconcileIssues {partnerId : String} (now : ℕ) {issues : List PendingIssue}
    (held : ∀ issue ∈ issues, (partnerId, issue.opId, issue.code, issue.amountAtomic) ∈ phase.held) :
    mendFlow.Follows (reconcileIssues partnerId now issues) anyhow phase := by
  induction issues generalizing phase with
  | nil => exact trivial
  | cons issue rest ih =>
    obtain ⟨here, later⟩ := forall_mem_cons.mp held
    unfold reconcileIssues
    split_ifs
    · exact ih later
    · refine Follows.bind ((Follows.extends (follows_reconcileIssue now here)).mono fun result after kept => ?_)
      cases result with
      | error failure => exact trivial
      | ok _ => exact ih fun other member => kept.2.held (later other member)

theorem follows_reconcileRefunds (partnerId : String) (refunds : List PendingRefund)
    (belongs : ∀ refund ∈ refunds, phase.Belongs partnerId refund.code) :
    mendFlow.Follows (reconcileRefunds partnerId refunds) anyhow phase := by
  induction refunds generalizing phase with
  | nil => exact trivial
  | cons pending rest ih =>
    have first := Follows.extends (follows_settlePendingRefund (belongs pending mem_cons_self))
    refine Follows.bind (first.mono fun settled after now => ?_)
    cases settled with
    | error failure => exact trivial
    | ok _ => exact ih fun refund member => now.2.belongs (belongs refund (mem_cons_of_mem _ member))

theorem follows_reconcilePending (partnerId : String) :
    mendFlow.Follows (reconcilePending partnerId) anyhow phase := by
  refine Follows.ask ⟨trivial, trivial⟩ fun partner => ?_
  cases partner with
  | none => exact trivial
  | some partner =>
    refine Follows.ask ⟨trivial, trivial⟩ fun now => ?_
    have held : ∀ issue ∈ partner.pendingIssues, (partnerId, issue.opId, issue.code, issue.amountAtomic) ∈
        (routerFlow.next phase (.partner (.read partnerId)) (some partner)).held :=
      fun issue member => mem_append_left _ (mem_map.mpr ⟨issue, member, rfl⟩)
    refine Follows.bind ((Follows.extends (follows_reconcileIssues now held)).mono fun result after later => ?_)
    cases result with
    | error failure => exact trivial
    | ok _ =>
      refine follows_reconcileRefunds partnerId _ fun refund member => later.2.belongs (.inl ?_)
      exact mem_append_left _ (mem_map.mpr ⟨refund, member, rfl⟩)

theorem follows_findIssuedByClientKey (partnerId clientKey : String) :
    routerFlow.Follows (findIssuedByClientKey partnerId clientKey) anyhow phase := by
  refine Follows.ask trivial fun partner => ?_
  cases partner with
  | none => exact trivial
  | some partner =>
    refine Follows.ask trivial fun durable => ?_
    dsimp only
    split
    next => exact trivial
    next code _ =>
      refine Follows.ask trivial fun record => ?_
      split
      next => exact trivial
      next =>
        have released : ∀ (phase : RouterPhase) inFlight,
            routerFlow.Follows (releaseUnused partnerId clientKey inFlight) anyhow phase := by
          intro phase inFlight
          unfold releaseUnused
          split_ifs
          · exact follows_releaseIdempotency _ _
          · exact trivial
        exact Follows.bind (released _ _).loose

/-- Each attempt debits a fresh op and creates its coupon, or refunds the op once the code is taken. -/
theorem follows_issueAttempts (args : IssueArgs) (attempts : ℕ) :
    routerFlow.Follows (issueAttempts args attempts) anyhow phase := by
  induction attempts generalizing phase with
  | zero => exact trivial
  | succ attempts ih =>
    refine Follows.ask trivial fun opId => ?_
    refine Follows.ask trivial fun code => ?_
    refine Follows.ask trivial fun entryId => ?_
    refine Follows.bind ((follows_applyLedger args.partnerId rfl ?_ fun now => ?_).mono fun debit phase booked => ?_)
    · intro now code same
      cases same
    · refine ⟨?_, ?_, nofun⟩
      · rintro _ _ _ _ ⟨⟩
        exact ⟨rfl, rfl, rfl, mem_cons_of_mem _ mem_cons_self⟩
      · rintro _ ⟨⟩
        exact ⟨opId, code, args.amountAtomic, rfl⟩
    · cases debit with
      | error failure => exact trivial
      | ok debit =>
        dsimp only
        split_ifs with applied
        · obtain ⟨unborn, holds⟩ := booked
          have held := holds debit rfl applied mem_cons_self
          refine Follows.ask trivial fun now => ?_
          refine Follows.ask ⟨rfl, fun _ => ?_⟩ fun created => ?_
          · rintro _ ⟨⟩
            exact ⟨unborn ▸ mem_cons_of_mem _ mem_cons_self, args.partnerId, rfl, held⟩
          split_ifs with won
          · exact Follows.ask trivial fun _ => trivial
          · obtain rfl := Bool.eq_false_iff.mpr won
            refine Follows.bind ((Follows.mended (follows_refundPendingIssue _ _ (.inl mem_cons_self))).mono fun refunded phase _ => ?_)
            cases refunded with
            | error failure => exact trivial
            | ok _ => exact Follows.bind ((follows_releaseIdempotency _ _).mono fun _ _ _ => ih)
        · refine Follows.bind ((follows_findIssuedByClientKey _ _).mono fun settled phase _ => ?_)
          cases settled <;> exact trivial

theorem follows_issuePartnerCoupon (args : IssueArgs) :
    routerFlow.Follows (issuePartnerCoupon args) anyhow phase := by
  unfold issuePartnerCoupon
  split_ifs
  · exact trivial
  · refine Follows.bind ((Follows.mended (follows_reconcilePending args.partnerId)).mono fun repaired phase _ => ?_)
    cases repaired with
    | error failure => exact trivial
    | ok _ =>
      refine Follows.bind ((follows_findIssuedByClientKey _ _).mono fun existing phase _ => ?_)
      cases existing with
      | some existing => exact trivial
      | none => exact follows_issueAttempts args 10

theorem follows_voidPartnerCoupon (args : VoidArgs) :
    routerFlow.Follows (voidPartnerCoupon args) anyhow phase := by
  refine Follows.ask trivial fun refundOpId => ?_
  refine Follows.ask trivial fun current => ?_
  cases current with
  | none => exact trivial
  | some current =>
    dsimp only
    split_ifs with dead foreign
    · exact trivial
    · exact trivial
    · have owner : current.partnerId = some args.partnerId := not_not.mp foreign
      have belongs : RouterPhase.Belongs (routerFlow.next (routerFlow.next phase (.env .randomUuid) refundOpId)
          (.coupon (.read args.code)) (some current)) args.partnerId args.code :=
        .inr ⟨current, mem_cons_self, owner⟩
      refine Follows.ask belongs fun intent => ?_
      cases intent with
      | error failure => exact trivial
      | ok _ =>
        refine Follows.ask rfl fun outcome => ?_
        cases outcome with
        | ok _ =>
          refine Follows.bind ((Follows.mended (follows_settlePendingRefundById refundOpId ?_)).mono fun settled phase _ => ?_)
          · exact belongs
          · cases settled <;> exact trivial
        | refused reason owed =>
          have settles : routerFlow.Follows (settleOwed args.partnerId args.code owed) anyhow
              (routerFlow.next (routerFlow.next (routerFlow.next phase (.env .randomUuid) refundOpId)
                (.coupon (.read args.code)) (some current))
                (.coupon (.voidIssued args.code args.partnerId refundOpId)) (.refused reason owed)) := by
            cases owed with
            | none => exact trivial
            | some owed => exact Follows.mended (follows_settlePendingRefundById owed belongs)
          refine Follows.bind (settles.mono fun settled phase _ => ?_)
          cases settled with
          | error failure => exact trivial
          | ok settled =>
            cases settled with
            | true => exact trivial
            | false => exact Follows.ask trivial fun _ => trivial

theorem follows_issueCoupon (args : AdminIssueArgs) (now attempts : ℕ) :
    routerFlow.Follows (issueCoupon args now attempts) anyhow phase := by
  induction attempts generalizing phase with
  | zero => exact trivial
  | succ attempts ih =>
    refine Follows.ask trivial fun code => ?_
    refine Follows.ask ⟨rfl, fun _ _ same => nomatch same⟩ fun created => ?_
    split_ifs
    · exact trivial
    · exact ih

/-! ## Redemption -/

/-- Quotes and reservations leave the phase alone. -/
theorem follows_quoteForCoupon (request : RedeemRequest) (record : CouponRecord) :
    routerFlow.Follows (quoteForCoupon request record) (fun _ after => after = phase) phase := by
  have quoted : routerFlow.Follows (quoteLink request) (fun _ after => after = phase) phase := by
    unfold quoteLink
    cases request.provider with
    | coinbase =>
      refine Follows.ask trivial fun quote => ?_
      cases quote with
      | refused status => exact rfl
      | unreachable => exact rfl
      | quoted amount => cases amount <;> exact rfl
    | stripeCrypto =>
      refine Follows.ask trivial fun resolution => ?_
      cases resolution with
      | expired => exact rfl
      | failed => exact rfl
      | invoice invoice =>
        refine Follows.ask trivial fun now => ?_
        cases stripePayable now invoice with
        | error response => exact rfl
        | ok amount =>
          refine Follows.ask trivial fun capability => ?_
          cases capability <;> exact rfl
  refine Follows.bind (quoted.mono fun result after same => ?_)
  cases result with
  | error response => exact same
  | ok plan =>
    dsimp only
    split_ifs <;> exact same

theorem follows_returnFunds (attemptId : Uuid) (held : Reservations) :
    routerFlow.Follows (returnFunds attemptId held) (fun _ after => after = phase) phase := by
  unfold returnFunds
  split_ifs
  · exact Follows.call trivial fun _ => rfl
  · exact rfl

theorem follows_returnSpend (plan : PaymentPlan) (held : Reservations) :
    routerFlow.Follows (returnSpend plan held) (fun _ after => after = phase) phase := by
  unfold returnSpend
  cases held.spendDay with
  | none => exact rfl
  | some day => exact Follows.call trivial fun _ => rfl

theorem follows_reserveForCoupon (attemptId : Uuid) (plan : PaymentPlan) :
    routerFlow.Follows (reserveForCoupon attemptId plan) (fun _ after => after = phase) phase := by
  refine Follows.ask trivial fun paused => ?_
  dsimp only
  split_ifs
  · exact rfl
  refine Follows.ask trivial fun balance => ?_
  have funded : routerFlow.Follows (reserveBalance attemptId plan balance) (fun _ after => after = phase) phase := by
    cases balance with
    | none => exact rfl
    | some balance => exact Follows.call trivial fun _ => rfl
  refine Follows.bind (funded.mono fun funded after same => ?_)
  subst same
  split_ifs
  · cases plan.provider with
    | coinbase => exact rfl
    | stripeCrypto =>
      refine Follows.ask trivial fun now => ?_
      refine Follows.ask trivial fun spent => ?_
      cases spent with
      | some spent => exact rfl
      | none => exact Follows.bind ((follows_returnFunds _ _).mono fun _ _ same => same)
  · exact rfl

/-- A redemption that gives up returns what it holds and the coupon. -/
theorem follows_abandon (code : String) (attemptId : Uuid) (plan : PaymentPlan) (held : Reservations)
    (response : RedeemResponse) : routerFlow.Follows (do
      returnFunds attemptId held
      returnSpend plan held
      onCoupon (.rollback code attemptId)
      pure response) anyhow phase := by
  refine Follows.bind ((follows_returnFunds attemptId held).mono fun _ phase _ => ?_)
  refine Follows.bind ((follows_returnSpend plan held).mono fun _ phase _ => ?_)
  exact Follows.ask trivial fun _ => trivial

theorem follows_payForCoupon {code : String} {attemptId : Uuid} {plan : PaymentPlan} {held : Reservations}
    (minted : phase.minted = some attemptId) (entered : phase.redemption = .entered plan.invoiceKey code attemptId) :
    routerFlow.Follows (payForCoupon code attemptId plan held) anyhow phase := by
  refine Follows.ask ⟨code, attemptId, entered, minted, rfl⟩ fun id => ?_
  refine Follows.ask trivial fun result => ?_
  have refused : ∀ phase : RouterPhase,
      routerFlow.Follows (returnRefusedSpend plan held result) anyhow phase := by
    intro phase
    unfold returnRefusedSpend
    split_ifs
    · exact (follows_returnSpend plan held).loose
    · exact trivial
  refine Follows.bind ((refused _).mono fun _ phase _ => ?_)
  refine Follows.bind ((follows_returnFunds attemptId held).mono fun _ phase _ => ?_)
  dsimp only
  split_ifs <;> exact Follows.ask trivial fun _ => trivial

theorem follows_executeForCoupon {code : String} {attemptId : Uuid} {plan : PaymentPlan} {held : Reservations}
    (minted : phase.minted = some attemptId) (idle : phase.redemption = .idle) :
    routerFlow.Follows (executeForCoupon code attemptId plan held) anyhow phase := by
  refine Follows.ask ⟨idle, rfl, code, rfl⟩ fun claim => ?_
  split_ifs with ours
  · have claimed : (phase.next (.guard (.claimInvoice plan.invoiceKey .crypto (.coupon code))) claim).redemption =
        .claimed plan.invoiceKey code := if_pos ours
    refine Follows.ask ⟨code, attemptId, claimed, minted, rfl⟩ fun inTheWay => ?_
    cases inTheWay with
    | some gate => exact follows_abandon _ _ _ _ _
    | none =>
      refine Follows.ask ⟨minted, rfl⟩ fun entered => ?_
      cases entered with
      | true => exact follows_payForCoupon minted rfl
      | false =>
        refine Follows.ask ⟨code, rfl, rfl, rfl⟩ fun _ => ?_
        refine Follows.ask ⟨code, attemptId, rfl, minted, rfl⟩ fun _ => ?_
        refine Follows.bind ((follows_returnSpend plan held).mono fun _ phase _ => ?_)
        exact Follows.bind (follows_returnFunds attemptId held).loose
  · exact follows_abandon _ _ _ _ _

theorem follows_handleRedeemCoupon (request : RedeemRequest) (idle : phase.redemption = .idle) :
    routerFlow.Follows (handleRedeemCoupon request) anyhow phase := by
  refine Follows.ask trivial fun attemptId => ?_
  refine Follows.ask trivial fun claim => ?_
  cases claim with
  | rejected => exact trivial
  | processing => exact trivial
  | alreadyRedeemed record => exact trivial
  | claimed record =>
    refine Follows.bind ((follows_quoteForCoupon request record).mono fun quoted after same => ?_)
    subst same
    cases quoted with
    | error response => exact Follows.ask trivial fun _ => trivial
    | ok plan =>
      refine Follows.bind ((follows_reserveForCoupon attemptId plan).mono fun held after same => ?_)
      subst same
      cases held with
      | none => exact Follows.ask trivial fun _ => trivial
      | some held => exact follows_executeForCoupon rfl idle

end Walk

/-- The requests that share coupons and the partner ledger. -/
inductive IsRouterThread : Route Unit → Prop
  | idle : IsRouterThread (pure ())
  | redeem (request : RedeemRequest) : IsRouterThread (handleRedeemCoupon request).run
  | resolve (code : String) (action : ResolveAction) : IsRouterThread (onCoupon (.resolve code action)).run
  | adminIssue (args : AdminIssueArgs) : IsRouterThread (handleIssueCoupon args).run
  | void (args : VoidArgs) : IsRouterThread (voidPartnerCoupon args).run
  | issue (args : IssueArgs) : IsRouterThread (issuePartnerCoupon args).run
  | reconcile (partnerId : String) : IsRouterThread (reconcilePending partnerId).run
  | topup (input : TopupInput) : IsRouterThread (topupPartner input).run
  | setStatus (partnerId : String) (status : PartnerStatus) :
      IsRouterThread (onPartner (.setStatus partnerId status)).run

theorem IsRouterThread.follows {thread : Route Unit} (member : IsRouterThread thread) :
    routerFlow.Follows thread anyhow ({} : RouterPhase) := by
  have forget : ∀ {α : Type} {route : Route α}, routerFlow.Follows route anyhow ({} : RouterPhase) →
      routerFlow.Follows route.run anyhow ({} : RouterPhase) :=
    fun follows => Follows.bind follows.loose
  cases member with
  | idle => exact trivial
  | redeem request => exact forget (follows_handleRedeemCoupon request rfl)
  | resolve code action => exact forget (Follows.call trivial fun _ => trivial)
  | adminIssue args => exact forget (Follows.ask trivial fun now => follows_issueCoupon args now 10)
  | void args => exact forget (follows_voidPartnerCoupon args)
  | issue args => exact forget (follows_issuePartnerCoupon args)
  | reconcile partnerId => exact forget (Follows.mended (follows_reconcilePending partnerId))
  | topup input => exact forget (follows_topupPartner input)
  | setStatus partnerId status => exact forget (Follows.call trivial fun _ => trivial)

end MppRouter.Routes
