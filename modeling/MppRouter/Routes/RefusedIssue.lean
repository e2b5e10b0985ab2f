import MppRouter.Core.Solo
import MppRouter.Routes.BalanceLaw

/-! # A refused issue and its retry

An issue claims its client key before it debits the balance. A debit that is refused changes no money, but it leaves
the key claimed, and a retry is turned away as in flight until the claim is stale.
-/

namespace MppRouter.Routes

open Concurrent Machine Mpp Function PartnerStore List Bool Prod
open Option (some bind_some any_eq_true)

/-! ## The ledger, alone -/

/-- The claim turns a request away at this time. -/
def IdemClaim.holds (now : ℕ) (claim : IdemClaim) : Prop :=
  claim.state = .done ∨ (claim.state = .pending ∧ now - claim.at_ < pendingStaleMs)

theorem claimIdem_held {now : ℕ} {current : Option IdemClaim} (held : ∃ claim, current = some claim ∧ claim.holds now) :
    claimIdem now current = .noop false := by
  obtain ⟨claim, rfl, held⟩ := held
  exact if_pos held

theorem claimIdem_free {now : ℕ} {current : Option IdemClaim} (free : ¬ ∃ claim, current = some claim ∧ claim.holds now) :
    claimIdem now current = .set ⟨.pending, now, none, none⟩ true := by
  cases current with
  | none => rfl
  | some claim => exact if_neg fun held => free ⟨claim, rfl, held⟩

/-- What a ledger mutation leaves alone. -/
structure Framed (partnerId : String) (key : LedgerKey) (world after : World) : Prop where
  coupons : after.coupons = world.coupons
  minted : after.minted = world.minted
  idem : ∀ partner other, ¬ (partnerId = partner ∧ key = other) →
    after.partners.idem partner other = world.partners.idem partner other

theorem Framed.trans {partnerId : String} {key : LedgerKey} {world middle after : World}
    (first : Framed partnerId key world middle) (later : Framed partnerId key middle after) :
    Framed partnerId key world after where
  coupons := later.coupons.trans first.coupons
  minted := later.minted.trans first.minted
  idem partner other foreign := (later.idem partner other foreign).trans (first.idem partner other foreign)

section Ledger

variable {admits : routerMachine.Admits} {tid : ℕ} {partnerId : String} {input : LedgerInput} {mutate : Mutate}
  {world after : World}

/-- One action of a request, and the rest goes on with its answer. -/
theorem solo_call {α : Type} {action : Action} {next : action.Answer → Route α} {value : α}
    (solo : Solo admits tid (Prog.call action >>= next) world value after) :
    ∃ choice, admits tid action choice world ∧
      Solo admits tid (next (perform tid action choice world).1) (perform tid action choice world).2 value after := by
  obtain ⟨choice, answer, middle, admitted, performed, later⟩ := solo.of_call
  obtain ⟨rfl, rfl⟩ := mk.inj (some.inj performed)
  exact ⟨choice, admitted, later⟩

theorem claim_taken (tid : ℕ) {key : LedgerKey} {choice : Choice}
    (free : ¬ ∃ claim, world.partners.idem partnerId key = some claim ∧ claim.holds choice.now) :
    let result := perform tid (.partner (.claimIdem partnerId key)) choice world
    result.1 = true ∧ Framed partnerId key world result.2 ∧ result.2.partners.partners = world.partners.partners ∧
      result.2.partners.idem partnerId key = some ⟨.pending, choice.now, none, none⟩ := by
  have decided := claimIdem_free free
  intro result
  have taken : result.1 = true := by
    simp only [result, perform, PartnerAction.perform, updateIdem, decided, Decision.result]
  have idem : ∀ partner other, result.2.partners.idem partner other =
      if partnerId = partner ∧ key = other then some ⟨.pending, choice.now, none, none⟩
      else world.partners.idem partner other := by
    intro partner other
    have moved : result.2.partners.idem =
        (world.partners.updateIdem partnerId key (claimIdem choice.now)).2.idem := by
      simp only [result, perform, PartnerAction.perform]
      split_ifs <;> rfl
    rw [moved, updateIdem_idem]
    split_ifs with ours
    · obtain ⟨rfl, rfl⟩ := ours
      rw [decided]
      rfl
    · rfl
  have partners : result.2.partners.partners = world.partners.partners := by
    simp only [result, perform, PartnerAction.perform]
    split_ifs <;> rfl
  refine ⟨taken, ⟨rfl, rfl, fun partner other foreign => ?_⟩, partners, ?_⟩
  · rw [idem, if_neg foreign]
  · rw [idem, if_pos ⟨rfl, rfl⟩]

theorem body_written (tid : ℕ) (world : World) (partnerId : String) (key : LedgerKey) (entry : LedgerEntry) (draft : Bool)
    (choice : Choice) :
    let after := (perform tid (.partner (.writeBody entry draft)) choice world).2
    Framed partnerId key world after ∧ after.partners.partners = world.partners.partners ∧
      after.partners.idem = world.partners.idem := by
  intro after
  have partners : after.partners.partners = world.partners.partners :=
    writeBody_partners world.partners entry draft
  have idem : after.partners.idem = world.partners.idem := writeBody_idem world.partners entry draft
  refine ⟨⟨rfl, rfl, fun partner other _ => ?_⟩, partners, idem⟩
  rw [idem]

theorem solo_backfill {α : Type} {entry : Option LedgerEntry} {next : Unit → Route α} {value : α} (partnerId : String)
    (key : LedgerKey)
    (solo : Solo admits tid (backfillBody entry >>= next) world value after) :
    ∃ middle, Framed partnerId key world middle ∧ middle.partners.partners = world.partners.partners ∧
      middle.partners.idem = world.partners.idem ∧ Solo admits tid (next ()) middle value after := by
  cases entry with
  | none => exact ⟨world, ⟨rfl, rfl, fun _ _ _ => rfl⟩, rfl, rfl, solo⟩
  | some entry =>
    obtain ⟨choice, -, solo⟩ := solo_call solo
    obtain ⟨framed, partners, idem⟩ := body_written tid world partnerId key entry false choice
    exact ⟨_, framed, partners, idem, solo⟩

theorem claim_settled (tid : ℕ) (world : World) (partnerId : String) (key : LedgerKey) (entry : Option Uuid) (couponCode : Option String) (choice : Choice) :
    let after := (perform tid (.partner (.settleIdem partnerId key entry couponCode)) choice world).2
    Framed partnerId key world after ∧ after.partners.partners = world.partners.partners := by
  refine ⟨⟨rfl, rfl, fun partner other foreign => ?_⟩, rfl⟩
  change (world.partners.updateIdem partnerId key (settleIdem choice.now entry couponCode)).2.idem partner other = _
  rw [updateIdem_idem, if_neg foreign]

/-- A commit throws, finds the key applied, or books. -/
theorem commit_outcome (tid : ℕ) (world : World) (partnerId : String) (mutation : LedgerMutation) (mutate : Mutate)
    (choice : Choice) :
    let result := perform tid (.partner (.commit partnerId mutation mutate)) choice world
    Framed partnerId mutation.idempotencyKey world result.2 ∧ result.2.partners.idem = world.partners.idem ∧
    ((∃ failure, commitLedger mutation mutate choice.now (world.partners.partners partnerId) = .error failure ∧
        result.1 = .error failure ∧ result.2.partners.partners = world.partners.partners) ∨
      (∃ partner, world.partners.partners partnerId = some partner ∧
        partner.remembers mutation.idempotencyKey = true ∧ result.1 = .ok (partner, none) ∧
        result.2.partners.partners = world.partners.partners) ∨
      ∃ partner next, world.partners.partners partnerId = some partner ∧
        0 ≤ partner.balanceAtomic + mutation.draft.deltaAtomic ∧
        mutate.apply choice.now (partner.booked mutation) = .ok next ∧
        result.1 = .ok (next, some (mutation.settled partner)) ∧
        result.2.partners.partners = update world.partners.partners partnerId (some next)) := by
  intro result
  have idem : result.2.partners.idem = world.partners.idem := by
    change (PartnerAction.perform tid choice.now (.commit partnerId mutation mutate) world.partners).2.idem = _
    obtain ⟨-, same⟩ | ⟨record, next, -, -, -, -, same⟩ :=
      commit_cases tid choice.now partnerId mutation mutate world.partners
    · rw [same]
    · rw [same]
  refine ⟨⟨rfl, rfl, fun partner other _ => by rw [idem]⟩, idem, ?_⟩
  have decide : result = perform tid (.partner (.commit partnerId mutation mutate)) choice world := rfl
  simp only [perform, PartnerAction.perform, tryUpdate] at decide
  cases found : world.partners.partners partnerId with
  | none =>
    left
    rw [decide]
    simp only [found, commitLedger]
    exact ⟨_, rfl, rfl, trivial⟩
  | some partner =>
    have decided := commitLedger_some mutation mutate choice.now partner
    by_cases listed : partner.remembers mutation.idempotencyKey = true
    · right; left
      rw [if_pos listed] at decided
      have unchanged : update world.partners.partners partnerId (some partner) = world.partners.partners := by
        rw [← found, update_eq_self]
      rw [decide]
      simp only [found, decided, Decision.result, Decision.after_noop, unchanged]
      exact ⟨partner, rfl, listed, rfl, trivial⟩
    · rw [if_neg listed] at decided
      by_cases negative : partner.balanceAtomic + mutation.draft.deltaAtomic < 0
      · left
        rw [if_pos negative] at decided
        rw [decide]
        simp only [found, decided]
        exact ⟨_, rfl, rfl, trivial⟩
      · rw [if_neg negative] at decided
        cases applied : mutate.apply choice.now (partner.booked mutation) with
        | error failure =>
          left
          rw [applied] at decided
          rw [decide]
          simp only [found, decided]
          exact ⟨_, rfl, rfl, trivial⟩
        | ok next =>
          right; right
          rw [applied] at decided
          rw [decide]
          simp only [found, decided, Decision.result, Decision.after_set]
          exact ⟨partner, next, rfl, Int.not_lt.mp negative, applied, rfl, rfl⟩

/-- What a ledger mutation comes to: a sibling holds the key, the commit throws, it finds the key applied, or it books. -/
inductive LedgerOutcome (admits : routerMachine.Admits) (tid : ℕ) (partnerId : String) (input : LedgerInput)
    (mutate : Mutate) (world : World) : Except PartnerError ApplyResult → World → Prop
  | turnedAway {choice : Choice} (admitted : admits tid (.partner (.claimIdem partnerId input.idempotencyKey)) choice world)
      (held : ∃ claim, world.partners.idem partnerId input.idempotencyKey = some claim ∧ claim.holds choice.now) :
      LedgerOutcome admits tid partnerId input mutate world (.ok ⟨world.partners.partners partnerId, none⟩) world
  | refused {choice : Choice} (admitted : admits tid (.partner (.claimIdem partnerId input.idempotencyKey)) choice world)
      (free : ¬ ∃ claim, world.partners.idem partnerId input.idempotencyKey = some claim ∧ claim.holds choice.now)
      {mutation : LedgerMutation} {now : ℕ} {failure : PartnerError} {after : World}
      (key : mutation.idempotencyKey = input.idempotencyKey) (delta : mutation.draft.deltaAtomic = input.deltaAtomic)
      (threw : commitLedger mutation mutate now (world.partners.partners partnerId) = .error failure)
      (framed : Framed partnerId input.idempotencyKey world after)
      (partners : after.partners.partners = world.partners.partners)
      (pending : after.partners.idem partnerId input.idempotencyKey = some ⟨.pending, choice.now, none, none⟩) :
      LedgerOutcome admits tid partnerId input mutate world (.error failure) after
  | replayed {choice : Choice} (admitted : admits tid (.partner (.claimIdem partnerId input.idempotencyKey)) choice world)
      (free : ¬ ∃ claim, world.partners.idem partnerId input.idempotencyKey = some claim ∧ claim.holds choice.now)
      {partner : PartnerRecord} {after : World} (found : world.partners.partners partnerId = some partner)
      (listed : partner.remembers input.idempotencyKey = true) (framed : Framed partnerId input.idempotencyKey world after)
      (partners : after.partners.partners = world.partners.partners) :
      LedgerOutcome admits tid partnerId input mutate world (.ok ⟨some partner, none⟩) after
  | booked {choice : Choice} (admitted : admits tid (.partner (.claimIdem partnerId input.idempotencyKey)) choice world)
      (free : ¬ ∃ claim, world.partners.idem partnerId input.idempotencyKey = some claim ∧ claim.holds choice.now)
      {partner next : PartnerRecord} {mutation : LedgerMutation} {now : ℕ} {entry : LedgerEntry} {after : World}
      (found : world.partners.partners partnerId = some partner)
      (key : mutation.idempotencyKey = input.idempotencyKey) (delta : mutation.draft.deltaAtomic = input.deltaAtomic)
      (funded : 0 ≤ partner.balanceAtomic + input.deltaAtomic)
      (applied : mutate.apply now (partner.booked mutation) = .ok next)
      (framed : Framed partnerId input.idempotencyKey world after)
      (partners : after.partners.partners = update world.partners.partners partnerId (some next)) :
      LedgerOutcome admits tid partnerId input mutate world (.ok ⟨some next, some entry⟩) after

theorem solo_applyLedger {result : Except PartnerError ApplyResult}
    (solo : Solo admits tid (applyLedger partnerId input mutate) world result after) :
    LedgerOutcome admits tid partnerId input mutate world result after := by
  obtain ⟨choice, admitted, solo⟩ := solo_call solo
  by_cases held : ∃ claim, world.partners.idem partnerId input.idempotencyKey = some claim ∧ claim.holds choice.now
  · have decided := claimIdem_held held
    simp only [perform, PartnerAction.perform, updateIdem, decided, Decision.result, Decision.after_noop,
      update_eq_self, false_eq_true, if_false] at solo
    obtain ⟨_, -, solo⟩ := solo_call solo
    obtain ⟨rfl, rfl⟩ := solo.of_pure
    exact .turnedAway admitted held
  · obtain ⟨taken, framed, partners, pending⟩ := claim_taken tid held
    rw [taken] at solo
    simp only [if_true] at solo
    generalize (perform tid (.partner (.claimIdem partnerId input.idempotencyKey)) choice world).2 = claimed at *
    obtain ⟨clock, -, solo⟩ := solo_call solo
    simp only [perform, EnvAction.perform] at solo
    obtain ⟨drafting, -, solo⟩ := solo_call solo
    obtain ⟨wrote, written, unclaimed⟩ := body_written tid claimed partnerId input.idempotencyKey
      (input.draft partnerId clock.now) true drafting
    generalize (perform tid (.partner (.writeBody (input.draft partnerId clock.now) true)) drafting claimed).2 = drafted at *
    obtain ⟨committing, -, solo⟩ := solo_call solo
    obtain ⟨moved, kept, outcome⟩ := commit_outcome tid drafted partnerId
      ⟨input.draft partnerId clock.now, input.idempotencyKey, input.couponCode⟩ mutate committing
    have before : drafted.partners.partners = world.partners.partners := written.trans partners
    have until_ : Framed partnerId input.idempotencyKey world drafted := framed.trans wrote
    generalize perform tid (.partner (.commit partnerId
      ⟨input.draft partnerId clock.now, input.idempotencyKey, input.couponCode⟩ mutate)) committing drafted = committed at *
    obtain ⟨answer, booked⟩ := committed
    rcases outcome with ⟨failure, threw, rfl, same⟩ | ⟨partner, found, listed, rfl, same⟩ |
      ⟨partner, next, found, funded, applied, rfl, same⟩
    · obtain ⟨rfl, rfl⟩ := solo.of_pure
      refine .refused admitted held rfl rfl (before ▸ threw) (until_.trans moved) (same.trans before) ?_
      exact (congrFun (congrFun kept _) _).trans ((congrFun (congrFun unclaimed _) _).trans pending)
    · obtain ⟨filled, filling, unmoved, -, solo⟩ := solo_backfill partnerId input.idempotencyKey solo
      obtain ⟨settling, -, solo⟩ := solo_call solo
      obtain ⟨rfl, rfl⟩ := solo.of_pure
      obtain ⟨settled, still⟩ := claim_settled tid filled partnerId input.idempotencyKey
        none input.couponCode settling
      exact .replayed admitted held (before ▸ found) listed (((until_.trans moved).trans filling).trans settled)
        (still.trans (unmoved.trans (same.trans before)))
    · obtain ⟨filled, filling, unmoved, -, solo⟩ := solo_backfill partnerId input.idempotencyKey solo
      obtain ⟨settling, -, solo⟩ := solo_call solo
      obtain ⟨rfl, rfl⟩ := solo.of_pure
      obtain ⟨settled, still⟩ := claim_settled tid filled partnerId input.idempotencyKey
        (some input.entryId) input.couponCode settling
      exact .booked admitted held (before ▸ found) rfl rfl funded applied (((until_.trans moved).trans filling).trans settled)
        (still.trans (unmoved.trans (before ▸ same)))

end Ledger

/-! ## The parts of an issue, alone -/

def IssueArgs.key (args : IssueArgs) : LedgerKey := .issue args.clientKey

/-- No money moved, no entry is listed and no coupon changed. -/
structure SameBooks (world after : World) : Prop where
  coupons : after.coupons = world.coupons
  balance : ∀ partnerId, after.partners.balance partnerId = world.partners.balance partnerId
  index : ∀ partnerId, after.partners.index partnerId = world.partners.index partnerId

theorem SameBooks.refl (world : World) : SameBooks world world := ⟨rfl, fun _ => rfl, fun _ => rfl⟩

theorem SameBooks.trans {world middle after : World} (first : SameBooks world middle) (later : SameBooks middle after) :
    SameBooks world after where
  coupons := later.coupons.trans first.coupons
  balance partnerId := (later.balance partnerId).trans (first.balance partnerId)
  index partnerId := (later.index partnerId).trans (first.index partnerId)

theorem SameBooks.symm {world after : World} (same : SameBooks world after) : SameBooks after world :=
  ⟨same.coupons.symm, fun partnerId => (same.balance partnerId).symm, fun partnerId => (same.index partnerId).symm⟩

/-- Only a commit moves money. -/
theorem quiet_books (tid : ℕ) {action : PartnerAction} (quiet : action.quiet = true) (choice : Choice) (world : World) :
    SameBooks world (perform tid (.partner action) choice world).2 where
  coupons := rfl
  balance partnerId := (quiet_balance tid choice.now quiet world.partners partnerId).1
  index partnerId := (quiet_balance tid choice.now quiet world.partners partnerId).2

/-- The partner's record does not list the key of the issue as applied. -/
def Unlisted (args : IssueArgs) (world : World) : Prop :=
  ∀ partner, world.partners.partners args.partnerId = some partner → partner.remembers args.key = false

/-- No coupon stands for an issue of the key that is still pending. -/
def Unborn (args : IssueArgs) (world : World) : Prop :=
  ∀ partner, world.partners.partners args.partnerId = some partner → ∀ issue ∈ partner.pendingIssues,
    issue.clientKey = args.clientKey → ∀ record, world.coupons.records issue.code = some record →
      record.tombstone = true ∨ record.partnerId ≠ some args.partnerId

section Parts

variable {admits : routerMachine.Admits} {tid : ℕ} {args : IssueArgs} {partnerId : String} {world after : World}

theorem solo_releaseIdempotency {key : LedgerKey} {value : Unit}
    (solo : Solo admits tid (releaseIdempotency partnerId key) world value after) :
    SameBooks world after ∧ after.minted = world.minted ∧
      (∃ now, after.partners.idem partnerId key = some ⟨.released, now, none, none⟩) ∧
      after.partners.partners = update world.partners.partners partnerId
        ((world.partners.partners partnerId).map fun partner =>
          { partner with applied := partner.applied.eraseP fun applied => applied.k = key }) := by
  obtain ⟨releasing, -, solo⟩ := solo_call solo
  have solo : Solo admits tid (onPartner (.removeApplied partnerId key) >>= Prog.pure) _ value after := solo
  obtain ⟨removing, -, solo⟩ := solo_call solo
  obtain ⟨-, rfl⟩ := solo.of_pure
  refine ⟨(quiet_books tid rfl _ _).trans (quiet_books tid rfl _ _), rfl, ⟨releasing.now, ?_⟩, ?_⟩
  · change (world.partners.updateIdem partnerId key (releaseIdem releasing.now)).2.idem partnerId key = _
    rw [updateIdem_idem, if_pos ⟨rfl, rfl⟩]
    rfl
  · change update world.partners.partners partnerId
      ((removeApplied key (world.partners.partners partnerId)).after (world.partners.partners partnerId)) = _
    congr 1
    cases world.partners.partners partnerId with
    | none => rfl
    | some partner =>
      simp only [removeApplied, Option.map_some]
      split_ifs with listed
      · rfl
      · rw [Decision.after_noop, eraseP_of_forall_not]
        intro applied member found
        exact listed (any_eq_true.mpr ⟨applied, member, found⟩)

/-- Actions that move no money. -/
def Looks : Action → Prop
  | .partner action => action.quiet = true
  | .coupon (.read _) => True
  | _ => False

theorem releaseUnused_looks (partnerId clientKey : String) (inFlight : Option PendingIssue) :
    (releaseUnused partnerId clientKey inFlight).Performs Looks := by
  unfold releaseUnused
  split_ifs
  · exact ⟨rfl, fun _ => ⟨rfl, fun _ => trivial⟩⟩
  · exact trivial

theorem findIssuedByClientKey_looks (partnerId clientKey : String) :
    (findIssuedByClientKey partnerId clientKey).Performs Looks := by
  refine Prog.Performs.ask rfl fun found => ?_
  cases found with
  | none => exact trivial
  | some partner =>
    refine Prog.Performs.ask rfl fun durable => ?_
    dsimp only
    split
    · exact trivial
    · refine Prog.Performs.ask trivial fun record => ?_
      split
      · exact trivial
      · exact Prog.Performs.bind (releaseUnused_looks _ _ _) fun _ => trivial

/-- Looking a key up moves no money. -/
theorem find_books {clientKey : String} {found : Option IssueResult}
    (solo : Solo admits tid (findIssuedByClientKey partnerId clientKey) world found after) : SameBooks world after := by
  apply solo.kept _ (findIssuedByClientKey_looks partnerId clientKey) (SameBooks.refl world)
  intro action looks choice before answer later _ performed same
  obtain ⟨rfl, rfl⟩ := mk.inj (some.inj performed)
  cases action with
  | partner action => exact same.trans (quiet_books tid looks choice before)
  | coupon action =>
    cases action with
    | read code => exact same
    | _ => exact absurd looks id
  | guard action => exact absurd looks id
  | env action => exact absurd looks id

/-- A key that is claimed and not applied points at a coupon only through an issue that is pending: it is found, or
the key stays claimed. -/
theorem find_pending {found : Option IssueResult} {claimedAt : ℕ}
    (solo : Solo admits tid (findIssuedByClientKey args.partnerId args.clientKey) world found after)
    (pending : world.partners.idem args.partnerId args.key = some ⟨.pending, claimedAt, none, none⟩)
    (unlisted : Unlisted args world) :
    after = world ∧ (∀ result, found = some result → result.reused = true) ∧ (Unborn args world → found = none) := by
  obtain ⟨_, -, solo⟩ := solo_call solo
  simp only [perform, PartnerAction.perform] at solo
  cases found : world.partners.partners args.partnerId with
  | none =>
    rw [found] at solo
    obtain ⟨rfl, rfl⟩ := solo.of_pure
    exact ⟨rfl, by rintro _ ⟨⟩, fun _ => rfl⟩
  | some partner =>
    rw [found] at solo
    obtain ⟨_, -, solo⟩ := solo_call solo
    have unapplied : (partner.applied.find? fun applied => applied.k = args.key) = none := by
      rw [find?_eq_none]
      intro applied member listed
      have never := unlisted partner found
      rw [PartnerRecord.remembers, any_eq_false] at never
      exact never applied member listed
    unfold IssueArgs.key at pending unapplied
    dsimp only [perform, PartnerAction.perform] at solo
    rw [pending, unapplied] at solo
    cases inFlight : partner.pendingIssues.find? fun issue => issue.clientKey = args.clientKey with
    | none =>
      rw [inFlight] at solo
      obtain ⟨rfl, rfl⟩ := solo.of_pure
      exact ⟨rfl, by rintro _ ⟨⟩, fun _ => rfl⟩
    | some issue =>
      rw [inFlight] at solo
      obtain ⟨_, -, solo⟩ := solo_call solo
      simp only [perform, CouponAction.perform] at solo
      cases usable : (world.coupons.records issue.code).filter fun record =>
          ¬ record.tombstone ∧ record.partnerId = some args.partnerId with
      | some record =>
        rw [usable] at solo
        obtain ⟨rfl, rfl⟩ := solo.of_pure
        refine ⟨rfl, fun result same => ?_, fun unborn => ?_⟩
        · cases same
          rfl
        · have member := mem_of_find?_eq_some inFlight
          have ours := find?_some inFlight
          obtain ⟨stored, live⟩ := Option.filter_eq_some_iff.mp usable
          have live := of_decide_eq_true live
          rcases unborn partner found issue member (of_decide_eq_true ours) record stored with dead | foreign
          · exact absurd dead live.1
          · exact absurd live.2 foreign
      | none =>
        rw [usable] at solo
        obtain ⟨rfl, rfl⟩ := solo.of_pure
        exact ⟨rfl, by rintro _ ⟨⟩, fun _ => rfl⟩

theorem solo_refundPendingIssue {opId : Uuid} {reason : String} {result : Except PartnerError Unit}
    (solo : Solo admits tid (refundPendingIssue partnerId opId reason) world result after) :
    ((world.partners.partners partnerId).bind (fun partner => partner.pendingIssues.find? fun issue => issue.opId = opId) =
        none ∧ result = .ok () ∧ after = world) ∨
      ∃ issue input outcome, (world.partners.partners partnerId).bind (fun partner =>
          partner.pendingIssues.find? fun issue => issue.opId = opId) = some issue ∧
        LedgerInput.idempotencyKey input = .issueRefund opId ∧ input.deltaAtomic = issue.amountAtomic ∧
        LedgerOutcome admits tid partnerId input (.dropIssue opId) { world with minted := world.minted + 1 } outcome after ∧
        result = outcome.map fun _ => () := by
  obtain ⟨_, -, solo⟩ := solo_call solo
  simp only [perform, PartnerAction.perform] at solo
  cases pending : (world.partners.partners partnerId).bind fun partner =>
      partner.pendingIssues.find? fun issue => issue.opId = opId with
  | none =>
    rw [pending] at solo
    obtain ⟨rfl, rfl⟩ := solo.of_pure
    exact .inl ⟨rfl, rfl, rfl⟩
  | some issue =>
    rw [pending] at solo
    obtain ⟨_, -, solo⟩ := solo_call solo
    obtain ⟨outcome, middle, booking, solo⟩ := solo.of_bind
    have ended : result = outcome.map (fun _ => ()) ∧ after = middle := by
      cases outcome with
      | error failure => exact solo.of_pure
      | ok applied => exact solo.of_pure
    obtain ⟨rfl, rfl⟩ := ended
    exact .inr ⟨issue, _, outcome, rfl, rfl, rfl, solo_applyLedger booking, rfl⟩

/-- One attempt of an issue: its debit throws, finds the key taken, or is booked; then the coupon is created, or its code
was taken and the debit is refunded. -/
theorem solo_attempt {attempts : ℕ} {answer : Except PartnerError IssueResult}
    (solo : Solo admits tid (issueAttempts args (attempts + 1)) world answer after) :
    ∃ choice code input debit middle, admits tid (.env .randomUuid) choice world ∧
      LedgerInput.idempotencyKey input = args.key ∧ input.deltaAtomic = -args.amountAtomic ∧
      LedgerOutcome admits tid args.partnerId input
        (.recordIssue ⟨tid, world.minted⟩ args.clientKey code args.amountAtomic)
        { world with minted := world.minted + 1 + 1 } debit middle ∧
      ((∃ failure, debit = .error failure ∧ answer = .error failure ∧ after = middle) ∨
        (∃ partner found, debit = .ok ⟨partner, none⟩ ∧
          Solo admits tid (findIssuedByClientKey args.partnerId args.clientKey) middle found after ∧
          answer = found.elim (.error .issueInFlight) .ok) ∨
        ∃ partner entry, debit = .ok ⟨partner, some entry⟩ ∧
          ((∃ result, answer = .ok result ∧ result.reused = false) ∨
            ∃ collided refunded refund, World.partners collided = middle.partners ∧ collided.minted = middle.minted ∧
              Solo admits tid (refundPendingIssue args.partnerId ⟨tid, world.minted⟩ "code_collision") collided refund
                refunded ∧
              ((∃ failure, refund = .error failure ∧ answer = .error failure) ∨
                ∃ released, Solo admits tid (releaseIdempotency args.partnerId args.key) refunded () released ∧
                  Solo admits tid (issueAttempts args attempts) released answer after))) := by
  obtain ⟨choice, admitted, solo⟩ := solo_call solo
  obtain ⟨drawing, -, solo⟩ := solo_call solo
  obtain ⟨_, -, solo⟩ := solo_call solo
  obtain ⟨debit, middle, booking, solo⟩ := solo.of_bind
  refine ⟨choice, drawing.text, _, debit, middle, admitted, ?_, ?_, solo_applyLedger booking, ?_⟩
  · rfl
  · rfl
  cases debit with
  | error failure =>
    obtain ⟨rfl, rfl⟩ := solo.of_pure
    exact .inl ⟨failure, rfl, rfl, rfl⟩
  | ok debit =>
    obtain ⟨partner, entry⟩ := debit
    right
    cases entry with
    | none =>
      left
      simp only [ApplyResult.applied, Option.isSome_none, false_eq_true, not_false_eq_true, if_true] at solo
      obtain ⟨found, finding, looked, solo⟩ := solo.of_bind
      refine ⟨partner, found, rfl, ?_⟩
      cases found with
      | none =>
        obtain ⟨rfl, rfl⟩ := solo.of_pure
        exact ⟨looked, rfl⟩
      | some result =>
        obtain ⟨rfl, rfl⟩ := solo.of_pure
        exact ⟨looked, rfl⟩
    | some entry =>
      right
      refine ⟨partner, entry, rfl, ?_⟩
      simp only [ApplyResult.applied, Option.isSome_some, not_true_eq_false, if_false] at solo
      obtain ⟨clock, -, solo⟩ := solo_call solo
      obtain ⟨creating, -, solo⟩ := solo_call solo
      split_ifs at solo
      · left
        obtain ⟨_, -, solo⟩ := solo_call solo
        obtain ⟨rfl, rfl⟩ := solo.of_pure
        exact ⟨_, rfl, rfl⟩
      · right
        obtain ⟨refund, refunded, refunding, solo⟩ := solo.of_bind
        refine ⟨_, refunded, refund, ?_, ?_, refunding, ?_⟩
        · rfl
        · rfl
        cases refund with
        | error failure =>
          obtain ⟨rfl, rfl⟩ := solo.of_pure
          exact .inl ⟨failure, rfl, rfl⟩
        | ok done =>
          obtain ⟨⟨⟩, released, releasing, solo⟩ := solo.of_bind
          exact .inr ⟨released, releasing, solo⟩

end Parts

/-! ## The listings of the key -/

/-- How often the record lists the key as applied. -/
def PartnerRecord.listings (partner : PartnerRecord) (key : LedgerKey) : ℕ :=
  partner.applied.countP fun applied => applied.k = key

theorem PartnerRecord.remembers_eq_false {partner : PartnerRecord} {key : LedgerKey} :
    partner.remembers key = false ↔ partner.listings key = 0 := by
  simp [PartnerRecord.remembers, PartnerRecord.listings, countP_eq_zero]

theorem listings_booked {mutate : Mutate} {now : ℕ} {partner next : PartnerRecord} {mutation : LedgerMutation}
    (applied : mutate.apply now (partner.booked mutation) = .ok next) (key : LedgerKey) :
    next.listings key ≤ partner.listings key + if mutation.idempotencyKey = key then 1 else 0 := by
  have listed : next.applied = ⟨mutation.idempotencyKey, mutation.draft.id, mutation.couponCode⟩ ::
      partner.applied.take (maxIdemKeys - 1) := by
    rw [Mutate.apply_eq applied]
    rfl
  have fewer : (partner.applied.take (maxIdemKeys - 1)).countP (fun applied => decide (applied.k = key)) ≤
      partner.applied.countP fun applied => decide (applied.k = key) := (take_sublist _ _).countP_le
  simp only [PartnerRecord.listings, listed, countP_cons, decide_eq_true_eq]
  omega

/-- A commit never throws that the issue is in flight. -/
theorem commitLedger_failure {mutation : LedgerMutation} {mutate : Mutate} {now : ℕ} {current : Option PartnerRecord}
    {failure : PartnerError} (threw : commitLedger mutation mutate now current = .error failure) :
    failure ≠ .issueInFlight := by
  rintro rfl
  cases current with
  | none => cases threw
  | some partner =>
    rw [commitLedger_some] at threw
    split_ifs at threw
    · cases threw
    · cases applied : mutate.apply now (partner.booked mutation) with
      | ok next =>
        rw [applied] at threw
        cases threw
      | error failure =>
        rw [applied] at threw
        cases threw
        cases mutate with
        | recordIssue opId clientKey code amountAtomic =>
          simp only [Mutate.apply] at applied
          split_ifs at applied <;> cases applied
        | _ => cases applied

/-- Forgetting one listing of a key that is listed once leaves none. -/
theorem countP_eraseP {α : Type} (p : α → Bool) (items : List α) : (items.eraseP p).countP p = items.countP p - 1 := by
  induction items with
  | nil => rfl
  | cons head tail ih =>
    cases here : p head with
    | true => simp [eraseP_cons_of_pos here, countP_cons_of_pos here]
    | false =>
      have here : ¬ p head = true := by simp [here]
      rw [eraseP_cons_of_neg here, countP_cons_of_neg here, countP_cons_of_neg here, ih]

/-- The partner's record lists the key so often at most. -/
def ListsAtMost (args : IssueArgs) (count : ℕ) (world : World) : Prop :=
  ∀ partner, world.partners.partners args.partnerId = some partner → partner.listings args.key ≤ count

theorem unlisted_iff {args : IssueArgs} {world : World} : Unlisted args world ↔ ListsAtMost args 0 world := by
  simp only [Unlisted, ListsAtMost, PartnerRecord.remembers_eq_false, Nat.le_zero]

section Attempts

variable {admits : routerMachine.Admits} {tid : ℕ} {args : IssueArgs} {world after : World}

variable {opId : Uuid}

/-- A refund of an issue lists its own key only, and never answers that the issue is in flight. -/
theorem refund_lists {reason : String} {result : Except PartnerError Unit} {count : ℕ}
    (lists : ListsAtMost args count world)
    (solo : Solo admits tid (refundPendingIssue args.partnerId opId reason) world result after) :
    ListsAtMost args count after ∧ result ≠ .error .issueInFlight := by
  rcases solo_refundPendingIssue solo with ⟨-, rfl, rfl⟩ | ⟨issue, input, outcome, -, key, -, booking, rfl⟩
  · exact ⟨lists, nofun⟩
  · cases booking with
    | turnedAway => exact ⟨lists, nofun⟩
    | replayed _ _ found listed framed partners => exact ⟨fun partner found => lists partner (partners ▸ found), nofun⟩
    | refused _ _ _ _ threw framed partners pending =>
      refine ⟨fun partner found => lists partner (partners ▸ found), fun same => ?_⟩
      exact commitLedger_failure threw (Except.error.inj same)
    | @booked _ _ _ partner next mutation now entry _ found same delta funded applied framed partners =>
      refine ⟨fun later stored => ?_, nofun⟩
      rw [partners, update_self] at stored
      cases stored
      have fewer := listings_booked applied args.key
      rw [same, key, if_neg (by simp [IssueArgs.key])] at fewer
      exact Nat.le_trans fewer (lists partner found)

theorem release_unlists {value : Unit} (lists : ListsAtMost args 1 world)
    (solo : Solo admits tid (releaseIdempotency args.partnerId args.key) world value after) : Unlisted args after := by
  obtain ⟨-, -, -, partners⟩ := solo_releaseIdempotency solo
  rw [unlisted_iff]
  intro later stored
  rw [partners, update_self] at stored
  obtain ⟨partner, found, rfl⟩ := Option.map_eq_some_iff.mp stored
  have once := lists partner found
  simp only [PartnerRecord.listings] at once ⊢
  rw [countP_eraseP]
  omega

/-- The retry looks at the pending claim of its key at this time. -/
def looksAt (args : IssueArgs) (t : ℕ) (action : Action) (choice : Choice) (world : World) : Bool :=
  match action with
  | .partner (.claimIdem partnerId key) => partnerId = args.partnerId → key = args.key →
    (world.partners.idem partnerId key).any (·.state = .pending) → choice.now = t
  | _ => true

abbrev LooksAt (args : IssueArgs) (t : ℕ) : routerMachine.Admits := fun _ action choice world =>
  looksAt args t action choice world = true

/-- The issue is processed: it is neither turned away as in flight nor answered with an earlier coupon. -/
def Fresh (answer : Except PartnerError IssueResult) : Prop :=
  answer ≠ .error .issueInFlight ∧ ∀ result, answer = .ok result → result.reused = false

variable {failure : PartnerError}

theorem fresh_error (other : failure ≠ .issueInFlight) : Fresh (.error failure) :=
  ⟨fun same => other (Except.error.inj same), fun _ same => (nomatch same)⟩

/-- At this time the key may be claimed. -/
def Claimable (args : IssueArgs) (t : ℕ) (world : World) : Prop :=
  ∀ claim, world.partners.idem args.partnerId args.key = some claim → claim.state ≠ .done ∧
    (claim.state = .pending → claim.at_ + pendingStaleMs ≤ t)

theorem looksAt_now {t : ℕ} {choice : Choice} {claim : IdemClaim}
    (looks : looksAt args t (.partner (.claimIdem args.partnerId args.key)) choice world = true)
    (found : world.partners.idem args.partnerId args.key = some claim) (pending : claim.state = .pending) :
    choice.now = t := by
  have looks := of_decide_eq_true looks
  exact looks rfl rfl (by simp [found, pending])

theorem Claimable.free {t : ℕ} {choice : Choice} (claimable : Claimable args t world)
    (looks : looksAt args t (.partner (.claimIdem args.partnerId args.key)) choice world = true) :
    ¬ ∃ claim, world.partners.idem args.partnerId args.key = some claim ∧ claim.holds choice.now := by
  rintro ⟨claim, found, done | ⟨pending, young⟩⟩
  · exact (claimable claim found).1 done
  · have stale := (claimable claim found).2 pending
    have now := looksAt_now looks found pending
    omega

theorem pending_holds {t claimedAt : ℕ} {choice : Choice}
    (pending : world.partners.idem args.partnerId args.key = some ⟨.pending, claimedAt, none, none⟩)
    (prompt : t < claimedAt + pendingStaleMs)
    (looks : looksAt args t (.partner (.claimIdem args.partnerId args.key)) choice world = true) :
    ∃ claim, world.partners.idem args.partnerId args.key = some claim ∧ claim.holds choice.now := by
  have now := looksAt_now looks pending rfl
  refine ⟨_, pending, .inr ⟨rfl, ?_⟩⟩
  have positive : 0 < pendingStaleMs := by decide
  change choice.now - claimedAt < pendingStaleMs
  omega

variable {answer : Except PartnerError IssueResult}

theorem attempts_fresh {t attempts : ℕ} (claimable : Claimable args t world)
    (unlisted : Unlisted args world) (solo : Solo (LooksAt args t) tid (issueAttempts args attempts) world answer after) :
    Fresh answer := by
  induction attempts generalizing world with
  | zero =>
    obtain ⟨rfl, -⟩ := solo.of_pure
    exact fresh_error nofun
  | succ attempts ih =>
    obtain ⟨choice, code, input, debit, middle, -, key, -, booking, ending⟩ := solo_attempt solo
    cases booking with
    | turnedAway admitted held =>
      rw [key] at admitted held
      exact absurd held (claimable.free admitted)
    | replayed _ _ found listed framed partners =>
      rw [key, unlisted _ found] at listed
      cases listed
    | refused _ _ _ _ threw framed partners pending =>
      rcases ending with ⟨failure, same, rfl, rfl⟩ | ⟨_, _, impossible, -⟩ | ⟨_, _, impossible, -⟩
      · cases same
        exact fresh_error (commitLedger_failure threw)
      · cases impossible
      · cases impossible
    | @booked _ _ _ partner next mutation now entry _ found same delta funded applied framed partners =>
      rcases ending with ⟨_, impossible, -⟩ | ⟨_, _, impossible, -⟩ | ⟨_, _, -, ending⟩
      · cases impossible
      · cases impossible
      rcases ending with ⟨result, rfl, issued⟩ | ⟨collided, refunded, refund, stored, -, refunding, ending⟩
      · refine ⟨nofun, fun other same => ?_⟩
        cases same
        exact issued
      have lists : ListsAtMost args 1 collided := by
        intro later found'
        rw [stored, partners, update_self] at found'
        cases found'
        have once := listings_booked applied args.key
        have none_ := PartnerRecord.remembers_eq_false.mp (unlisted partner found)
        rw [same, key, if_pos rfl] at once
        omega
      obtain ⟨lists, other⟩ := refund_lists lists refunding
      rcases ending with ⟨failure, rfl, rfl⟩ | ⟨released, releasing, again⟩
      · exact fresh_error fun same => other (congrArg Except.error same)
      · obtain ⟨-, -, ⟨now, idem⟩, -⟩ := solo_releaseIdempotency releasing
        refine ih ?_ (release_unlists lists releasing) again
        intro claim found
        rw [idem] at found
        cases found
        exact ⟨nofun, nofun⟩

theorem attempts_turned_away {t claimedAt attempts : ℕ}
    (pending : world.partners.idem args.partnerId args.key = some ⟨.pending, claimedAt, none, none⟩)
    (unlisted : Unlisted args world) (prompt : t < claimedAt + pendingStaleMs)
    (solo : Solo (LooksAt args t) tid (issueAttempts args (attempts + 1)) world answer after) : ¬ Fresh answer := by
  obtain ⟨choice, code, input, debit, middle, -, key, -, booking, ending⟩ := solo_attempt solo
  cases booking with
  | turnedAway admitted held =>
    rcases ending with ⟨_, impossible, -⟩ | ⟨_, found, -, finding, rfl⟩ | ⟨_, _, impossible, -⟩
    · cases impossible
    · obtain ⟨-, replay, -⟩ := find_pending finding pending unlisted
      rintro ⟨unflown, fresh⟩
      cases found with
      | none => exact unflown rfl
      | some result =>
        have reused := replay result rfl
        rw [fresh result rfl] at reused
        cases reused
    · cases impossible
  | replayed admitted free | refused admitted free | booked admitted free =>
    rw [key] at admitted free
    exact absurd (pending_holds pending prompt admitted) free

/-- The errors of a debit that is refused. -/
def PartnerError.refusesIssue : PartnerError → Bool
  | .insufficientBalance | .partnerSuspended | .tooManyPending => true
  | _ => false

/-- An identifier that is drawn is new: no key of the partner carries it. -/
def draws (partnerId : String) (tid : ℕ) (action : Action) (world : World) : Bool :=
  match action with
  | .env .randomUuid => (world.partners.idem partnerId (.issueRefund ⟨tid, world.minted⟩)).isNone ∧
    (world.partners.partners partnerId).all fun partner => ¬ partner.remembers (.issueRefund ⟨tid, world.minted⟩)
  | _ => true

abbrev Draws (partnerId : String) : routerMachine.Admits := fun tid action _ world => draws partnerId tid action world = true

/-- The partner may be debited. -/
def Funded (args : IssueArgs) (world : World) : Prop :=
  ∃ partner, world.partners.partners args.partnerId = some partner ∧ 0 ≤ partner.balanceAtomic - args.amountAtomic ∧
    partner.status ≠ .suspended ∧ partner.pendingIssues.length < maxPendingOps

variable {mutation : LedgerMutation}

theorem Funded.of_booked {partner next : PartnerRecord} {now : ℕ} {code : String}
    (found : world.partners.partners args.partnerId = some partner) (funded : 0 ≤ partner.balanceAtomic + -args.amountAtomic)
    (applied : Mutate.apply now (partner.booked mutation) (.recordIssue opId args.clientKey code args.amountAtomic) =
      .ok next) : Funded args world := by
  simp only [Mutate.apply] at applied
  split_ifs at applied with suspended full
  exact ⟨partner, found, by omega, suspended, Nat.lt_of_not_le full⟩

theorem Funded.commits (funded : Funded args world) {now : ℕ} {code : String}
    (delta : mutation.draft.deltaAtomic = -args.amountAtomic)
    (threw : commitLedger mutation (.recordIssue opId args.clientKey code args.amountAtomic) now
      (world.partners.partners args.partnerId) = .error failure) : False := by
  obtain ⟨partner, found, enough, active, room⟩ := funded
  rw [found, commitLedger_some, delta] at threw
  split_ifs at threw with listed negative
  · omega
  · have applied : Mutate.apply now (partner.booked mutation) (.recordIssue opId args.clientKey code args.amountAtomic) =
        .ok _ := (if_neg active).trans (if_neg (Nat.not_le.mpr room))
    rw [applied] at threw
    cases threw

/-- A refund under a new identifier gives the debit back. -/
theorem refund_restores {reason : String} {result : Except PartnerError Unit} {partner next : PartnerRecord}
    {code : String} {now : ℕ} (positive : 0 < args.amountAtomic)
    (enough : 0 ≤ partner.balanceAtomic - args.amountAtomic) (delta : mutation.draft.deltaAtomic = -args.amountAtomic)
    (applied : Mutate.apply now (partner.booked mutation) (.recordIssue opId args.clientKey code args.amountAtomic) =
      .ok next)
    (stored : world.partners.partners args.partnerId = some next)
    (unclaimed : world.partners.idem args.partnerId (.issueRefund opId) = none)
    (unlisted : next.remembers (.issueRefund opId) = false)
    (solo : Solo admits tid (refundPendingIssue args.partnerId opId reason) world result after) :
    result = .ok () ∧ ∃ restored, after.partners.partners args.partnerId = some restored ∧
      restored.balanceAtomic = partner.balanceAtomic ∧ restored.status = partner.status ∧
      restored.pendingIssues = partner.pendingIssues := by
  have recorded := Mutate.apply_eq applied
  have head : next.pendingIssues = ⟨opId, args.clientKey, code, args.amountAtomic, now⟩ :: partner.pendingIssues := by
    rw [recorded]
    rfl
  have balance : next.balanceAtomic = partner.balanceAtomic - args.amountAtomic := by
    rw [recorded]
    change partner.balanceAtomic + mutation.draft.deltaAtomic = _
    rw [delta, Int.sub_eq_add_neg]
  have status : next.status = partner.status := by
    rw [recorded]
    rfl
  have pending : (next.pendingIssues.find? fun issue => issue.opId = opId) =
      some ⟨opId, args.clientKey, code, args.amountAtomic, now⟩ := by
    rw [head, find?_cons_of_pos (by simp)]
  rcases solo_refundPendingIssue solo with ⟨absent, -⟩ | ⟨issue, input, outcome, found, key, amount, booking, rfl⟩
  · rw [stored, bind_some, pending] at absent
    cases absent
  · rw [stored, bind_some, pending] at found
    cases found
    cases booking with
    | turnedAway _ held =>
      obtain ⟨claim, found, -⟩ := held
      rw [key, unclaimed] at found
      cases found
    | replayed _ _ found listed =>
      obtain rfl := some.inj (stored.symm.trans found)
      rw [key, unlisted] at listed
      cases listed
    | refused _ _ same delta threw =>
      rw [stored, commitLedger_some, same, key, unlisted, delta, amount, balance] at threw
      simp only [false_eq_true, if_false, Int.sub_add_cancel] at threw
      split_ifs at threw with negative
      · omega
      · cases threw
    | @booked _ _ _ partner' restored refund _ entry _ found same delta funded undone framed partners =>
      obtain rfl := some.inj (stored.symm.trans found)
      have undone := Mutate.apply_eq undone
      refine ⟨rfl, restored, by rw [partners, update_self], ?_, ?_, ?_⟩
      · rw [undone]
        change next.balanceAtomic + refund.draft.deltaAtomic = _
        rw [delta, amount, balance, Int.sub_add_cancel]
      · rw [undone]
        exact status
      · rw [undone]
        change next.pendingIssues.eraseP _ = _
        rw [head, eraseP_cons_of_pos (by simp)]

/-- A partner that may be debited is not refused, however often a code is taken. -/
theorem funded_unrefused {attempts : ℕ} (positive : 0 < args.amountAtomic) (funded : Funded args world)
    (solo : Solo (Draws args.partnerId) tid (issueAttempts args attempts) world (.error failure) after) :
    failure.refusesIssue = false := by
  induction attempts generalizing world with
  | zero =>
    obtain ⟨same, -⟩ := solo.of_pure
    cases same
    rfl
  | succ attempts ih =>
    obtain ⟨choice, code, input, debit, middle, drawn, key, delta, booking, ending⟩ := solo_attempt solo
    have inFlight : ∀ found : Option IssueResult, Except.error failure = found.elim (.error .issueInFlight) .ok →
        failure.refusesIssue = false := by
      intro found same
      cases found with
      | none =>
        cases same
        rfl
      | some result => cases same
    cases booking with
    | turnedAway | replayed =>
      rcases ending with ⟨_, impossible, -⟩ | ⟨_, found, -, -, same⟩ | ⟨_, _, impossible, -⟩
      · cases impossible
      · exact inFlight found same
      · cases impossible
    | refused _ _ _ same threw => exact absurd threw fun threw => funded.commits (same.trans delta) threw
    | @booked _ _ _ partner next mutation now entry _ found same amount enough applied framed partners =>
      rcases ending with ⟨_, impossible, -⟩ | ⟨_, _, impossible, -⟩ | ⟨_, _, -, ending⟩
      · cases impossible
      · cases impossible
      rcases ending with ⟨result, impossible, -⟩ | ⟨collided, refunded, refund, stored, minted, refunding, ending⟩
      · cases impossible
      obtain ⟨record, found', enough, active, room⟩ := funded
      obtain rfl := some.inj (found.symm.trans found')
      obtain ⟨unclaimed, unlisted⟩ := of_decide_eq_true drawn
      have refundable : collided.partners.idem args.partnerId (.issueRefund ⟨tid, world.minted⟩) = none := by
        rw [stored, framed.idem _ _ (by simp [key, IssueArgs.key])]
        exact Option.isNone_iff_eq_none.mp unclaimed
      have unremembered : next.remembers (.issueRefund ⟨tid, world.minted⟩) = false := by
        have fewer := listings_booked applied (.issueRefund ⟨tid, world.minted⟩)
        rw [same, key, if_neg (by simp [IssueArgs.key])] at fewer
        rw [found] at unlisted
        have never := PartnerRecord.remembers_eq_false.mp (by simpa using unlisted)
        exact PartnerRecord.remembers_eq_false.mpr (by omega)
      have booked : collided.partners.partners args.partnerId = some next := by
        rw [stored, partners, update_self]
      obtain ⟨rfl, restored, after_, balance, status, pending⟩ := refund_restores positive enough (amount.trans delta)
        applied booked refundable unremembered refunding
      rcases ending with ⟨_, impossible, -⟩ | ⟨released, releasing, again⟩
      · cases impossible
      obtain ⟨-, -, -, released_⟩ := solo_releaseIdempotency releasing
      refine ih ⟨{ restored with applied := restored.applied.eraseP fun applied => applied.k = args.key }, ?_, ?_, ?_, ?_⟩ again
      · rw [released_, update_self, after_]
        rfl
      · exact balance ▸ enough
      · exact status ▸ active
      · exact pending ▸ room

/-- A refused attempt moves no money, and leaves its key claimed and not applied. -/
theorem attempts_refused {attempts : ℕ} (positive : 0 < args.amountAtomic) (cause : failure.refusesIssue = true)
    (solo : Solo (Draws args.partnerId) tid (issueAttempts args (attempts + 1)) world (.error failure) after) :
    SameBooks world after ∧ Unlisted args after ∧
      ∃ claimedAt, after.partners.idem args.partnerId args.key = some ⟨.pending, claimedAt, none, none⟩ := by
  have unfunded : ¬ Funded args world := by
    intro funded
    rw [funded_unrefused positive funded solo] at cause
    cases cause
  obtain ⟨choice, code, input, debit, middle, -, key, delta, booking, ending⟩ := solo_attempt solo
  have inFlight : ∀ found : Option IssueResult, Except.error failure ≠ found.elim (.error .issueInFlight) .ok := by
    intro found same
    cases found with
    | none =>
      cases same
      cases cause
    | some result => cases same
  cases booking with
  | turnedAway | replayed =>
    rcases ending with ⟨_, impossible, -⟩ | ⟨_, found, -, -, same⟩ | ⟨_, _, impossible, -⟩
    · cases impossible
    · exact absurd same (inFlight found)
    · cases impossible
  | booked _ _ found _ _ enough applied => exact absurd (Funded.of_booked found (by omega) applied) unfunded
  | @refused choice _ _ mutation now _ _ same _ threw framed partners pending =>
    rcases ending with ⟨_, thrown, failed, rfl⟩ | ⟨_, _, impossible, -⟩ | ⟨_, _, impossible, -⟩
    · cases thrown
      cases failed
      rw [key] at pending
      refine ⟨⟨framed.coupons, fun partnerId => ?_, fun partnerId => ?_⟩, fun partner found => ?_, choice.now, pending⟩
      · simp only [balance, partners]
      · simp only [index, partners]
      · rw [partners] at found
        rw [found, commitLedger_some, same, key] at threw
        by_contra listed
        rw [if_pos (not_eq_false _ ▸ listed)] at threw
        cases threw
    · cases impossible
    · cases impossible

end Attempts

/-! ## What the others leave -/

/-- The action is not about the key of the issue. -/
def spares (args : IssueArgs) : Action → Bool
  | .partner (.claimIdem partnerId key) | .partner (.settleIdem partnerId key _ _) | .partner (.releaseIdem partnerId key) =>
    ¬ (partnerId = args.partnerId ∧ key = args.key)
  | .partner (.commit partnerId mutation _) => ¬ (partnerId = args.partnerId ∧ mutation.idempotencyKey = args.key)
  | _ => true

/-- Nobody else uses the key of the issue. -/
abbrev KeyUnused (args : IssueArgs) : routerMachine.Admits := fun _ action _ _ => spares args action = true

/-- The key of the issue is claimed since then, and not applied. -/
structure Stuck (args : IssueArgs) (claimedAt : ℕ) (world : World) : Prop where
  pending : world.partners.idem args.partnerId args.key = some ⟨.pending, claimedAt, none, none⟩
  unlisted : Unlisted args world

section Others

variable {args : IssueArgs} {claimedAt : ℕ} {world : World} {tid : ℕ}

theorem spared_idem {action : PartnerAction} (spared : spares args (.partner action) = true) (choice : Choice) :
    (perform tid (.partner action) choice world).2.partners.idem args.partnerId args.key =
      world.partners.idem args.partnerId args.key := by
  cases action with
  | claimIdem partnerId key =>
    have foreign := of_decide_eq_true spared
    have moved : (perform tid (.partner (.claimIdem partnerId key)) choice world).2.partners.idem =
        (world.partners.updateIdem partnerId key (claimIdem choice.now)).2.idem := by
      simp only [perform, PartnerAction.perform]
      split_ifs <;> rfl
    rw [moved, updateIdem_idem, if_neg foreign]
  | settleIdem partnerId key entry couponCode =>
    have foreign := of_decide_eq_true spared
    change (world.partners.updateIdem partnerId key (settleIdem choice.now entry couponCode)).2.idem _ _ = _
    rw [updateIdem_idem, if_neg foreign]
  | releaseIdem partnerId key =>
    have foreign := of_decide_eq_true spared
    change (world.partners.updateIdem partnerId key (releaseIdem choice.now)).2.idem _ _ = _
    rw [updateIdem_idem, if_neg foreign]
  | commit partnerId mutation mutate =>
    obtain ⟨-, same, -⟩ := commit_outcome tid world partnerId mutation mutate choice
    rw [same]
  | writeBody entry draft =>
    change (world.partners.writeBody entry draft).idem _ _ = _
    rw [writeBody_idem]
  | recordPendingRefund partnerId refundOpId code amountAtomic kind =>
    simp only [perform, PartnerAction.perform, tryUpdate]
    split <;> rfl
  | _ => rfl

theorem spared_unlisted {action : PartnerAction} (spared : spares args (.partner action) = true) (choice : Choice)
    (unlisted : Unlisted args world) : Unlisted args (perform tid (.partner action) choice world).2 := by
  intro later found
  by_cases quiet : action.quiet = true
  · have change := quiet_change tid choice.now quiet world.partners args.partnerId
    change (action.perform tid choice.now world.partners).2.partners args.partnerId = some later at found
    rw [found] at change
    generalize stored : world.partners.partners args.partnerId = before at change
    cases change with
    | same => exact unlisted later stored
    | created => rfl
    | forgot performs partner =>
      have never := countP_eq_zero.mp (PartnerRecord.remembers_eq_false.mp (unlisted partner stored))
      refine PartnerRecord.remembers_eq_false.mpr (countP_eq_zero.mpr fun applied member => ?_)
      exact never applied (mem_of_mem_eraseP member)
    | confirmed performs partner => exact unlisted partner stored
    | noted performs partner => exact unlisted partner stored
    | dropped performs partner => exact unlisted partner stored
    | status performs partner => exact unlisted partner stored
  · cases action with
    | commit partnerId mutation mutate =>
      have foreign := of_decide_eq_true spared
      obtain ⟨-, -, outcome⟩ := commit_outcome tid world partnerId mutation mutate choice
      rcases outcome with ⟨_, -, -, same⟩ | ⟨_, -, -, -, same⟩ | ⟨partner, next, stored, -, applied, -, same⟩
      · rw [same] at found
        exact unlisted later found
      · rw [same] at found
        exact unlisted later found
      · rw [same] at found
        by_cases here : args.partnerId = partnerId
        · subst here
          rw [update_self] at found
          cases found
          have fewer := listings_booked applied args.key
          rw [if_neg fun key => foreign ⟨rfl, key⟩, PartnerRecord.remembers_eq_false.mp (unlisted partner stored)] at fewer
          exact PartnerRecord.remembers_eq_false.mpr (Nat.le_zero.mp fewer)
        · rw [update_of_ne here] at found
          exact unlisted later found
    | _ => exact absurd rfl quiet

/-- What does not use the key leaves it stuck. -/
theorem Stuck.spared (stuck : Stuck args claimedAt world) {action : Action} (spared : spares args action = true)
    (choice : Choice) : Stuck args claimedAt (perform tid action choice world).2 := by
  cases action with
  | partner action => exact ⟨(spared_idem spared choice).trans stuck.pending, spared_unlisted spared choice stuck.unlisted⟩
  | coupon action => exact ⟨stuck.pending, stuck.unlisted⟩
  | guard action => exact ⟨stuck.pending, stuck.unlisted⟩
  | env action => cases action <;> exact ⟨stuck.pending, stuck.unlisted⟩

/-- However the others go on without the key, it stays stuck. -/
theorem Stuck.run {threads : ℕ → Route Unit} {later : routerMachine.Config} (stuck : Stuck args claimedAt world)
    (run : Run (KeyUnused args) ⟨world, threads⟩ later) : Stuck args claimedAt later.world := by
  induction run with
  | refl => exact stuck
  | tail _ step ih =>
    cases step with | @mk tid action choice rest answer after next admitted performed => ?_
    obtain ⟨rfl, rfl⟩ := mk.inj (some.inj performed)
    exact ih.spared admitted choice

end Others

/-! ## The repair pass -/

theorem reconcilePending_mends (partnerId : String) : (reconcilePending partnerId).Performs Mends :=
  (@follows_reconcilePending {} partnerId).performs fun _ _ => And.right

section Mended

variable {args : IssueArgs} {claimedAt tid : ℕ} {admits : routerMachine.Admits} {world after : World}

theorem mends_spares {action : Action} (mends : Mends action) : spares args action = true := by
  cases action with
  | partner action =>
    cases action with
    | claimIdem partnerId key => exact decide_eq_true fun same => mends args.clientKey same.2
    | settleIdem partnerId key entry couponCode => exact decide_eq_true fun same => mends args.clientKey same.2
    | releaseIdem partnerId key => exact absurd mends id
    | commit partnerId mutation mutate => exact decide_eq_true fun same => mends.1 args.clientKey same.2
    | _ => rfl
  | _ => rfl

/-- The issues that are pending were pending before, and coupons that stand for nothing still do. -/
theorem Unborn.of_pending (unborn : Unborn args world) (coupons : after.coupons = world.coupons)
    (pending : ∀ later, after.partners.partners args.partnerId = some later →
      later.pendingIssues = [] ∨ ∃ partner, world.partners.partners args.partnerId = some partner ∧
        later.pendingIssues ⊆ partner.pendingIssues) : Unborn args after := by
  intro later found issue member ours record stored
  rw [coupons] at stored
  rcases pending later found with empty | ⟨partner, was, fewer⟩
  · rw [empty] at member
    cases member
  · exact unborn partner was issue (fewer member) ours record stored

/-- Only a debit opens an issue. -/
theorem partner_pending {action : PartnerAction} (mends : Mends (.partner action)) (choice : Choice) (later : PartnerRecord)
    (found : (perform tid (.partner action) choice world).2.partners.partners args.partnerId = some later) :
    later.pendingIssues = [] ∨ ∃ partner, world.partners.partners args.partnerId = some partner ∧
      later.pendingIssues ⊆ partner.pendingIssues := by
  by_cases quiet : action.quiet = true
  · have change := quiet_change tid choice.now quiet world.partners args.partnerId
    change (action.perform tid choice.now world.partners).2.partners args.partnerId = some later at found
    rw [found] at change
    generalize world.partners.partners args.partnerId = before at change
    cases change with
    | same => exact .inr ⟨later, rfl, List.Subset.refl _⟩
    | created => exact .inl rfl
    | confirmed performs partner => exact .inr ⟨partner, rfl, eraseP_subset⟩
    | forgot _ partner | noted _ partner | dropped _ partner | status _ partner =>
      exact .inr ⟨partner, rfl, List.Subset.refl _⟩
  · cases action with
    | commit partnerId mutation mutate =>
      obtain ⟨-, -, outcome⟩ := commit_outcome tid world partnerId mutation mutate choice
      rcases outcome with ⟨_, -, -, same⟩ | ⟨_, -, -, -, same⟩ | ⟨partner, next, stored, -, applied, -, same⟩
      · rw [same] at found
        exact .inr ⟨later, found, List.Subset.refl _⟩
      · rw [same] at found
        exact .inr ⟨later, found, List.Subset.refl _⟩
      · rw [same] at found
        by_cases here : args.partnerId = partnerId
        · subst here
          rw [update_self] at found
          cases found
          refine .inr ⟨partner, stored, ?_⟩
          rw [Mutate.apply_eq applied]
          cases mutate with
          | recordIssue opId clientKey code amountAtomic => exact absurd mends.2 (fun same => nomatch same)
          | dropIssue opId => exact eraseP_subset
          | nothing | dropRefund => exact List.Subset.refl _
        · rw [update_of_ne here] at found
          exact .inr ⟨later, found, List.Subset.refl _⟩
    | _ => exact absurd rfl quiet

/-- A repair pass creates tombstones only, and opens no issue. -/
theorem mends_unborn {action : Action} (mends : Mends action) (choice : Choice) (unborn : Unborn args world) :
    Unborn args (perform tid action choice world).2 := by
  cases action with
  | partner action => exact unborn.of_pending rfl (partner_pending mends choice)
  | guard action => exact absurd mends id
  | env action =>
    refine unborn.of_pending (by cases action <;> rfl) fun later found => .inr ⟨later, ?_, List.Subset.refl _⟩
    cases action <;> exact found
  | coupon action =>
    intro partner found issue member ours record stored
    have before := unborn partner found issue member ours
    cases action with
    | read code => exact before record stored
    | create fresh =>
      change update world.coupons.records fresh.code
        ((createCoupon fresh (world.coupons.records fresh.code)).after (world.coupons.records fresh.code)) issue.code =
          some record at stored
      by_cases here : issue.code = fresh.code
      · rw [here, update_self] at stored
        rw [here] at before
        cases was : world.coupons.records fresh.code with
        | none =>
          rw [was] at stored
          cases stored
          exact .inl mends
        | some old =>
          rw [was] at stored
          exact before record (was.trans stored)
      · rw [update_of_ne here] at stored
        exact before record stored
    | stampRefund code refundOpId ledgerId credited =>
      change update world.coupons.records code
        ((stampRefund refundOpId ledgerId credited (world.coupons.records code)).after (world.coupons.records code))
          issue.code = some record at stored
      by_cases here : issue.code = code
      · rw [here, update_self] at stored
        rw [here] at before
        cases was : world.coupons.records code with
        | none =>
          rw [was] at stored
          cases stored
        | some old =>
          rw [was] at stored
          simp only [stampRefund] at stored
          have dead := before old was
          split_ifs at stored
          · cases stored
            exact dead
          · cases stored
            exact dead
          · cases stored
            exact dead
      · rw [update_of_ne here] at stored
        exact before record stored
    | _ => exact absurd mends id

/-- A repair pass leaves the key as it is. -/
theorem Stuck.repaired {result : Except PartnerError Unit} (stuck : Stuck args claimedAt world)
    (solo : Solo admits tid (reconcilePending args.partnerId) world result after) : Stuck args claimedAt after := by
  refine solo.kept (fun action mends choice before answer later _ performed stuck => ?_) (reconcilePending_mends _) stuck
  obtain ⟨rfl, rfl⟩ := mk.inj (some.inj performed)
  exact stuck.spared (mends_spares mends) choice

theorem Unborn.repaired {result : Except PartnerError Unit} (unborn : Unborn args world)
    (solo : Solo admits tid (reconcilePending args.partnerId) world result after) : Unborn args after := by
  refine solo.kept (fun action mends choice before answer later _ performed unborn => ?_) (reconcilePending_mends _) unborn
  obtain ⟨rfl, rfl⟩ := mk.inj (some.inj performed)
  exact mends_unborn mends choice unborn

end Mended

/-! ## A refused issue -/

section Refused

variable {args : IssueArgs} {tid : ℕ} {admits : routerMachine.Admits} {world after : World}

theorem solo_issuePartnerCoupon {answer : Except PartnerError IssueResult} (positive : 0 < args.amountAtomic)
    (solo : Solo admits tid (issuePartnerCoupon args) world answer after) :
    (∃ failure, Solo admits tid (reconcilePending args.partnerId) world (.error failure) after ∧ answer = .error failure) ∨
      ∃ repaired found looked, Solo admits tid (reconcilePending args.partnerId) world (.ok ()) repaired ∧
        Solo admits tid (findIssuedByClientKey args.partnerId args.clientKey) repaired found looked ∧
        ((∃ result, found = some result ∧ answer = .ok result ∧ after = looked) ∨
          found = none ∧ Solo admits tid (issueAttempts args 10) looked answer after) := by
  unfold issuePartnerCoupon at solo
  rw [if_neg (by omega)] at solo
  obtain ⟨repair, repaired, repairing, solo⟩ := solo.of_bind
  cases repair with
  | error failure =>
    obtain ⟨rfl, rfl⟩ := solo.of_pure
    exact .inl ⟨failure, repairing, rfl⟩
  | ok done =>
    right
    obtain ⟨found, looked, looking, solo⟩ := solo.of_bind
    refine ⟨repaired, found, looked, repairing, looking, ?_⟩
    cases found with
    | some result =>
      obtain ⟨rfl, rfl⟩ := solo.of_pure
      exact .inl ⟨result, rfl, rfl, rfl⟩
    | none => exact .inr ⟨rfl, solo⟩

/-- An issue that is refused changes no money besides what its repair pass moved, and a retry is processed when it looks
at the key no sooner than `pendingStaleMs` after the refused request claimed it. -/
theorem refused_issue_retried {failure : PartnerError} {middle : World}
    (refused : Solo (Draws args.partnerId) tid (issuePartnerCoupon args) world (.error failure) middle)
    (cause : failure.refusesIssue = true) :
    Solo (Draws args.partnerId) tid (reconcilePending args.partnerId) world (.error failure) middle ∨
      ∃ repaired claimedAt, Solo (Draws args.partnerId) tid (reconcilePending args.partnerId) world (.ok ()) repaired ∧
        middle.partners.idem args.partnerId args.key = some ⟨.pending, claimedAt, none, none⟩ ∧
        ∀ (threads : ℕ → Route Unit) (later : routerMachine.Config), Run (KeyUnused args) ⟨middle, threads⟩ later →
          ∀ (t other : ℕ) (answer : Except PartnerError IssueResult) (final : World),
          Solo (LooksAt args t) other (issuePartnerCoupon args) later.world answer final →
          (∀ failure mended, ¬ Solo (LooksAt args t) other (reconcilePending args.partnerId) later.world (.error failure) mended) →
          (SameBooks world middle ∧ Fresh answer → SameBooks world repaired ∧ claimedAt + pendingStaleMs ≤ t) ∧
            (Unborn args later.world → SameBooks world repaired ∧ claimedAt + pendingStaleMs ≤ t →
              SameBooks world middle ∧ Fresh answer) := by
  have positive : 0 < args.amountAtomic := by
    by_contra negative
    unfold issuePartnerCoupon at refused
    rw [if_pos (by omega)] at refused
    obtain ⟨same, -⟩ := refused.of_pure
    cases same
    cases cause
  rcases solo_issuePartnerCoupon positive refused with ⟨_, repairing, same⟩ | ⟨repaired, found, looked, repairing, looking, ending⟩
  · cases same
    exact .inl repairing
  rcases ending with ⟨_, -, impossible, -⟩ | ⟨rfl, attempting⟩
  · cases impossible
  obtain ⟨books, unlisted, claimedAt, pending⟩ := attempts_refused positive cause attempting
  have clean : SameBooks repaired middle := (find_books looking).trans books
  refine .inr ⟨repaired, claimedAt, repairing, pending, ?_⟩
  intro threads later run t other answer final retry repairs
  have stuck : Stuck args claimedAt later.world := Stuck.run ⟨pending, unlisted⟩ run
  rcases solo_issuePartnerCoupon positive retry with ⟨failure, failing, -⟩ | ⟨mended, found, looked, mending, looking, ending⟩
  · exact absurd failing (repairs failure final)
  have mendedStuck := stuck.repaired mending
  obtain ⟨rfl, replay, none_⟩ := find_pending looking mendedStuck.pending mendedStuck.unlisted
  constructor
  · rintro ⟨same, fresh⟩
    refine ⟨same.trans clean.symm, ?_⟩
    by_contra prompt
    rcases ending with ⟨result, rfl, rfl, -⟩ | ⟨rfl, attempting⟩
    · have reused := replay result rfl
      rw [fresh.2 result rfl] at reused
      cases reused
    · exact attempts_turned_away mendedStuck.pending mendedStuck.unlisted (Nat.lt_of_not_le prompt) attempting fresh
  · rintro unborn ⟨same, late⟩
    refine ⟨same.trans clean, ?_⟩
    obtain rfl := none_ (unborn.repaired mending)
    rcases ending with ⟨_, impossible, -⟩ | ⟨-, attempting⟩
    · cases impossible
    · refine attempts_fresh ?_ mendedStuck.unlisted attempting
      intro claim found
      rw [mendedStuck.pending] at found
      cases found
      exact ⟨fun same => (nomatch same), fun _ => late⟩

/-- With nothing unsettled there is nothing to repair. -/
theorem repair_idle {partnerId : String} {result : Except PartnerError Unit} (settled : (world.partners.partners partnerId).all
      (fun partner => partner.pendingIssues = [] ∧ partner.pendingRefunds = []) = true)
    (solo : Solo admits tid (reconcilePending partnerId) world result after) : result = .ok () ∧ after = world := by
  obtain ⟨_, -, solo⟩ := solo_call solo
  simp only [perform, PartnerAction.perform] at solo
  cases found : world.partners.partners partnerId with
  | none =>
    rw [found] at solo
    exact solo.of_pure
  | some partner =>
    rw [found, Option.all_some] at settled
    obtain ⟨issues, refunds⟩ := of_decide_eq_true settled
    rw [found] at solo
    simp only [issues, refunds] at solo
    obtain ⟨_, -, solo⟩ := solo_call solo
    exact solo.of_pure

end Refused

/-! ## A retry after a top-up -/

private def poorWorld : World :=
  { World.initial fun _ => none with
    partners := { (World.initial fun _ => none).partners with
      partners := update (fun _ => none) "p" (some { id := "p", email := "partner", createdAt := 0 }) } }

private def couponIssue : IssueArgs := { partnerId := "p", amountAtomic := 20, expiresInMinutes := 10, clientKey := "k" }

/-- The operator confirms a transfer that covers the issue. -/
private def topupThreads : ℕ → Route Unit
  | 1 => (topupPartner { email := "partner", amountAtomic := 50, proof := "wire" }).run
  | _ => pure ()

/-- The issue is refused, the partner is topped up, and the issue is tried again at this time. -/
private def retriedAt (t : ℕ) (steps : ℕ) (test : Except PartnerError IssueResult → Bool) : Bool :=
  (soloExec (Draws "p") 0 (List.replicate 11 .plain) (issuePartnerCoupon couponIssue) poorWorld).any fun refused =>
    (match refused.1 with | .error .insufficientBalance => true | _ => false) &&
    refused.2.partners.idem "p" (.issue "k") = some ⟨.pending, 0, none, none⟩ &&
    (Config.exec (KeyUnused couponIssue) ⟨refused.2, topupThreads⟩
      (List.replicate 10 (1, { text := "p" }))).any fun later =>
      (later.world.partners.partners "p").any (fun partner => partner.balanceAtomic = 50 ∧ partner.pendingIssues = [] ∧
        partner.pendingRefunds = []) &&
      (soloExec (LooksAt couponIssue t) 2 (List.replicate steps { now := t, text := "c" }) (issuePartnerCoupon couponIssue)
        later.world).any fun retried => test retried.1

private theorem retriedAt_spec {t steps : ℕ} {test : Except PartnerError IssueResult → Bool}
    (retried : retriedAt t steps test = true) : ∃ middle later answer final,
      Solo (Draws "p") 0 (issuePartnerCoupon couponIssue) poorWorld (.error .insufficientBalance) middle ∧
      middle.partners.idem "p" (.issue "k") = some ⟨.pending, 0, none, none⟩ ∧
      Run (KeyUnused couponIssue) ⟨middle, topupThreads⟩ later ∧
      (later.world.partners.partners "p").any (fun partner => partner.balanceAtomic = 50 ∧ partner.pendingIssues = [] ∧
        partner.pendingRefunds = []) = true ∧
      Solo (LooksAt couponIssue t) 2 (issuePartnerCoupon couponIssue) later.world answer final ∧ test answer = true := by
  obtain ⟨⟨refusal, middle⟩, executed, first⟩ := (any_eq_true _ _).mp retried
  obtain ⟨first, second⟩ := and_eq_true_iff.mp first
  obtain ⟨refusedSo, pending⟩ := and_eq_true_iff.mp first
  obtain ⟨later, reached, second⟩ := (any_eq_true _ _).mp second
  obtain ⟨settled, second⟩ := and_eq_true_iff.mp second
  obtain ⟨⟨answer, final⟩, retrying, tested⟩ := (any_eq_true _ _).mp second
  have same : refusal = .error .insufficientBalance := by
    dsimp only at refusedSo
    split at refusedSo
    · rfl
    · cases refusedSo
  subst same
  exact ⟨middle, later, answer, final, soloExec_solo executed, of_decide_eq_true pending, Config.exec_run reached,
    settled, soloExec_solo retrying, tested⟩

/-- A minute after the refusal the retry takes the key over. -/
theorem refused_issue_retried_late : ∃ middle later answer final,
    Solo (Draws "p") 0 (issuePartnerCoupon couponIssue) poorWorld (.error .insufficientBalance) middle ∧
    Run (KeyUnused couponIssue) ⟨middle, topupThreads⟩ later ∧
    Solo (LooksAt couponIssue 60000) 2 (issuePartnerCoupon couponIssue) later.world answer final ∧
    SameBooks poorWorld middle ∧ Fresh answer := by
  obtain ⟨middle, later, answer, final, refused, pending, run, topped, retry, -⟩ :=
    @retriedAt_spec 60000 40 (fun _ => true) (by decide +kernel)
  obtain ⟨partner, found, topped⟩ := (any_eq_true _ _).mp topped
  obtain ⟨-, issues, refunds⟩ := of_decide_eq_true topped
  refine ⟨middle, later, answer, final, refused, run, retry, ?_⟩
  have idle : (poorWorld.partners.partners "p").all
      (fun partner => partner.pendingIssues = [] ∧ partner.pendingRefunds = []) = true := rfl
  rcases @refused_issue_retried couponIssue 0 poorWorld .insufficientBalance middle refused rfl with
    failing | ⟨repaired, claimedAt, repairing, claimed, retried⟩
  · cases (repair_idle idle failing).1
  obtain ⟨-, rfl⟩ := repair_idle idle repairing
  obtain rfl : 0 = claimedAt := congrArg IdemClaim.at_ (some.inj (pending.symm.trans claimed))
  have settled : (later.world.partners.partners "p").all
      (fun partner => partner.pendingIssues = [] ∧ partner.pendingRefunds = []) = true := by
    rw [found]
    simp [issues, refunds]
  obtain ⟨-, enough⟩ := retried topupThreads later run 60000 2 answer final retry fun failure mended failing =>
    nomatch (repair_idle settled failing).1
  refine enough ?_ ⟨SameBooks.refl _, le_rfl⟩
  intro other stored issue member
  obtain rfl := some.inj (found.symm.trans stored)
  rw [issues] at member
  cases member

/-- The partner has the money right after the refusal, and the retry is turned away. -/
theorem refused_issue_in_flight : ∃ middle later final,
    Solo (Draws "p") 0 (issuePartnerCoupon couponIssue) poorWorld (.error .insufficientBalance) middle ∧
    Run (KeyUnused couponIssue) ⟨middle, topupThreads⟩ later ∧
    (∃ partner, later.world.partners.partners "p" = some partner ∧ partner.balanceAtomic = 50) ∧
    Solo (LooksAt couponIssue 1) 2 (issuePartnerCoupon couponIssue) later.world (.error .issueInFlight) final := by
  obtain ⟨middle, later, answer, final, refused, -, run, topped, retry, turnedAway⟩ := @retriedAt_spec 1 40
    (fun answer => match answer with | .error .issueInFlight => true | _ => false) (by decide +kernel)
  obtain ⟨partner, found, topped⟩ := (any_eq_true _ _).mp topped
  have same : answer = .error .issueInFlight := by
    split at turnedAway
    · rfl
    · cases turnedAway
  subst same
  exact ⟨middle, later, final, refused, run, ⟨partner, found, (of_decide_eq_true topped).1⟩, retry⟩

end MppRouter.Routes
