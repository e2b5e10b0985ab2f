import MppRouter.Routes.StripeSpec

/-! # The daily spend ledger of Stripe settlements

The counter of a UTC day holds the headroom of the attempts that reserved on it. A reservation comes
back when its call was definitely refused, or when a retry takes its call for unsigned. While every
release finds its reservation still counted, the counter covers every call that may have signed. A
handler that returned its reservation and throws afterwards returns it a second time, and the counter
forgets another attempt's.
-/

namespace MppRouter.Routes.Stripe

open Concurrent Machine Mpp Typestate Function Option

/-- A release returns a reservation that is still counted, on its day and in its amount. -/
def countedRelease (tid : ℕ) (action : Action) (world : World) : Bool :=
  match action with
  | .guard invoiceKey (.releaseDailySpend whose now delta) =>
    ((world.history.reservation tid invoiceKey whose).bind world.history.attempts.lookup).any fun attempt =>
      attempt.counted && attempt.day = now / dayMs && attempt.amount = delta
  | _ => true

abbrev CountedRelease : stripeMachine.Admits := fun tid action _ world => countedRelease tid action world = true

/-! ## Sums over the attempts -/

def countedWeight (day : ℕ) (_ : ℕ) (attempt : Attempt) : ℤ :=
  if attempt.counted ∧ attempt.day = day then attempt.amount else 0

def signedWeight (day : ℕ) (_ : ℕ) (attempt : Attempt) : ℤ :=
  if attempt.call.possiblySigned ∧ attempt.day = day then attempt.amount else 0

/-- What the attempts of a day have reserved and not got back. -/
def World.countedOn (world : World) (day : ℕ) : ℤ := world.history.attempts.total (countedWeight day)

/-- What the attempts of a day may have signed: calls sent, not refused and not taken for unsigned. -/
def World.possiblySigned (world : World) (day : ℕ) : ℤ := world.history.attempts.total (signedWeight day)

def World.spentOn (world : World) (day : ℕ) : ℤ := world.guards.spent .stripe day

/-- The counter covers every day's possible spend and keeps to the cap. -/
structure World.NeverUndercounts (world : World) (capAtomic : ℤ) : Prop where
  covers : ∀ day, world.possiblySigned day ≤ world.spentOn day
  capped : ∀ day, world.spentOn day ≤ capAtomic

namespace CallState

/-- The call was sent and came back. -/
def returned : CallState → Bool
  | .unsent | .outstanding => false
  | .accepted | .ambiguous | .refused | .disproved => true

/-- The call is known, or taken, to have signed nothing. -/
def settled : CallState → Bool
  | .refused | .disproved => true
  | .unsent | .outstanding | .accepted | .ambiguous => false

theorem settled_not_signed {call : CallState} (settled : call.settled = true) : call.possiblySigned = false := by
  cases call <;> first | rfl | cases settled

theorem disprove_settled {call : CallState} (returned : call.returned = true) : call.disprove.settled = true := by
  cases call <;> first | rfl | cases returned

theorem settled_returned {call : CallState} (settled : call.settled = true) : call.returned = true := by
  cases call <;> first | rfl | cases settled

theorem disprove_not_signed {call : CallState} (returned : call.returned = true) :
    call.disprove.possiblySigned = false := settled_not_signed (disprove_settled returned)

theorem received_returned (result : StripePayInvoiceResult) : (received result).returned = true := by
  unfold received
  split_ifs <;> rfl

end CallState

/-! ## The invariant -/

structure Ledger (capAtomic : ℤ) (world : World) : Prop where
  numbered : world.history.Numbered
  cap : world.guards.caps .stripe = some capAtomic
  spent : ∀ day, world.spentOn day = world.countedOn day
  capped : ∀ day, world.spentOn day ≤ capAtomic
  positive : ∀ id attempt, world.history.attempts.lookup id = some attempt → 0 < attempt.amount
  counted : ∀ id attempt, world.history.attempts.lookup id = some attempt →
    attempt.call.possiblySigned = true → attempt.counted = true
  ambiguous : ∀ invoiceKey id, world.history.ambiguous invoiceKey = some id →
    ∃ attempt, world.history.attempts.lookup id = some attempt ∧ attempt.call.returned = true
  reopened : ∀ tid invoiceKey id, world.history.reopened tid invoiceKey = some id →
    ∃ attempt, world.history.attempts.lookup id = some attempt ∧ attempt.call.settled = true

theorem Ledger.neverUndercounts {capAtomic : ℤ} {world : World} (ledger : Ledger capAtomic world) :
    world.NeverUndercounts capAtomic where
  covers := by
    intro day
    rw [ledger.spent]
    refine AList.total_le_total fun id attempt found => ?_
    have positive := ledger.positive id attempt found
    unfold signedWeight countedWeight
    split_ifs with signed counted
    · exact le_rfl
    · exact absurd ⟨ledger.counted id attempt found signed.1, signed.2⟩ counted
    · omega
    · exact le_rfl
  capped := ledger.capped

/-! ## What a handler may rely on -/

/-- A handler leaves the open attempts of others alone, and no step reopens a returned one. -/
structure Honors (tid : ℕ) (before after : World) : Prop where
  current : ∀ other, other ≠ tid → after.history.current other = before.history.current other
  open_ : ∀ id attempt, before.history.attempts.lookup id = some attempt → attempt.tid ≠ tid →
    attempt.call.returned = false → after.history.attempts.lookup id = some attempt
  returned : ∀ id attempt, before.history.attempts.lookup id = some attempt → attempt.call.returned = true →
    ∃ later, after.history.attempts.lookup id = some later ∧ later.call.returned = true ∧
      (attempt.call.settled = true → later.call.settled = true)

def dailySpend (capAtomic : ℤ) : Protocol stripeMachine := ⟨Ledger capAtomic, Honors⟩

/-- The current attempt of a request has a property. -/
def World.Mine (world : World) (tid : ℕ) (invoiceKey : String) (property : Attempt → Prop) : Prop :=
  ∃ id attempt, world.history.current tid invoiceKey = some id ∧
    world.history.attempts.lookup id = some attempt ∧ property attempt

/-- The attempt of a handler that did not call yet. -/
def Unsent (now : ℕ) (invoiceAtomic : ℤ) (holding reserved : Bool) (attempt : Attempt) : Prop :=
  attempt.call = .unsent ∧ attempt.amount = invoiceAtomic ∧ attempt.day = now / dayMs ∧
    (holding = true → attempt.counted = reserved)

def Returned (refused : Bool) (attempt : Attempt) : Prop :=
  attempt.call.returned = true ∧ (refused = true → attempt.call.settled = true)

def SpendKnows (tid : ℕ) (phase : Phase) (world : World) : Prop :=
  match phase.settlement with
  | .idle => True
  | .settling invoiceKey now invoiceAtomic holding reserved =>
    world.Mine tid invoiceKey (Unsent now invoiceAtomic holding reserved)
  | .calling invoiceKey => world.Mine tid invoiceKey fun attempt => attempt.call = .outstanding
  | .answered invoiceKey refused => world.Mine tid invoiceKey (Returned refused)

section Stable

variable {tid other : ℕ} {capAtomic : ℤ} {world after : World} {invoiceKey : String} {property : Attempt → Prop}

theorem Mine.open_ (distinct : other ≠ tid) (ledger : Ledger capAtomic world) (honors : Honors other world after)
    (pending : ∀ attempt, property attempt → attempt.call.returned = false)
    (mine : world.Mine tid invoiceKey property) : after.Mine tid invoiceKey property := by
  obtain ⟨id, attempt, current, found, holds⟩ := mine
  obtain ⟨own, foundOwn, ownTid, _⟩ := ledger.numbered.current _ _ _ current
  rw [found] at foundOwn
  cases foundOwn
  have kept := honors.open_ id attempt found (by omega) (pending attempt holds)
  exact ⟨id, attempt, (honors.current tid (Ne.symm distinct)) ▸ current, kept, holds⟩

theorem Mine.returned {refused : Bool} (distinct : other ≠ tid) (honors : Honors other world after)
    (mine : world.Mine tid invoiceKey (Returned refused)) : after.Mine tid invoiceKey (Returned refused) := by
  obtain ⟨id, attempt, current, found, returned, settled⟩ := mine
  obtain ⟨later, now, stillReturned, stillSettled⟩ := honors.returned id attempt found returned
  exact ⟨id, later, (honors.current tid (Ne.symm distinct)) ▸ current, now, stillReturned,
    fun refused => stillSettled (settled refused)⟩

theorem SpendKnows.stable (phase : Phase) : (dailySpend capAtomic).Stable tid (SpendKnows tid phase) := by
  intro other world after distinct ledger _ honors knows
  unfold SpendKnows at knows ⊢
  split at knows
  · trivial
  · exact Mine.open_ distinct ledger honors (fun attempt unsent => by rw [unsent.1]; rfl) knows
  · exact Mine.open_ distinct ledger honors (fun attempt outstanding => by rw [outstanding]; rfl) knows
  · exact Mine.returned distinct honors knows

end Stable

/-! ## Steps on the books -/

section Books

variable {tid : ℕ} {capAtomic : ℤ} {world after : World} {phase : Phase}

/-- The attempts and the counter stay; an attempt that came back may be noted as ambiguous. -/
structure SameBooks (before after : World) : Prop where
  attempts : after.history.attempts = before.history.attempts
  current : after.history.current = before.history.current
  started : after.history.started = before.history.started
  ambiguous : ∀ invoiceKey id, after.history.ambiguous invoiceKey = some id →
    before.history.ambiguous invoiceKey = some id ∨
      ∃ attempt, before.history.attempts.lookup id = some attempt ∧ attempt.call.returned = true
  reopened : ∀ tid invoiceKey id, after.history.reopened tid invoiceKey = some id →
    before.history.reopened tid invoiceKey = some id
  caps : after.guards.caps = before.guards.caps
  spent : ∀ day, after.spentOn day = before.spentOn day

namespace SameBooks

section Same

variable (same : SameBooks world after)

include same

theorem ledger (ledger : Ledger capAtomic world) : Ledger capAtomic after where
  numbered := ledger.numbered.congr same.current same.started fun id => by rw [same.attempts]
  cap := by rw [same.caps, ledger.cap]
  spent := by
    intro day
    rw [same.spent, ledger.spent, World.countedOn, World.countedOn, same.attempts]
  capped := by
    intro day
    rw [same.spent]
    exact ledger.capped day
  positive := by
    rw [same.attempts]
    exact ledger.positive
  counted := by
    rw [same.attempts]
    exact ledger.counted
  ambiguous := by
    intro invoiceKey id noted
    rw [same.attempts]
    rcases same.ambiguous invoiceKey id noted with earlier | returned
    · exact ledger.ambiguous invoiceKey id earlier
    · exact returned
  reopened := by
    intro tid invoiceKey id reopened
    rw [same.attempts]
    exact ledger.reopened _ _ _ (same.reopened _ _ _ reopened)

theorem honors : Honors tid world after where
  current := fun _ _ => by rw [same.current]
  open_ := fun _ _ found _ _ => by rwa [same.attempts]
  returned := fun _ attempt found returned => ⟨attempt, by rwa [same.attempts], returned, id⟩

theorem mine {invoiceKey : String} {property : Attempt → Prop}
    (mine : world.Mine tid invoiceKey property) : after.Mine tid invoiceKey property := by
  unfold World.Mine
  rwa [same.attempts, same.current]

theorem knows {next : Phase} (settlement : next.settlement = phase.settlement)
    (knows : SpendKnows tid phase world) : SpendKnows tid next after := by
  unfold SpendKnows at knows ⊢
  rw [settlement]
  split at knows
  · trivial
  all_goals exact same.mine knows

theorem step (ledger : Ledger capAtomic world) (knows : SpendKnows tid phase world)
    {next : Phase} (settlement : next.settlement = phase.settlement) :
    Ledger capAtomic after ∧ Honors tid world after ∧ SpendKnows tid next after :=
  ⟨same.ledger ledger, same.honors, same.knows settlement knows⟩

end Same

theorem refl (world : World) : SameBooks world world :=
  ⟨rfl, rfl, rfl, fun _ _ noted => .inl noted, fun _ _ _ reopened => reopened, rfl, fun _ => rfl⟩

theorem of_history (history : after.history = world.history) (guards : after.guards = world.guards) :
    SameBooks world after := by
  refine ⟨by rw [history], by rw [history], by rw [history], ?_, ?_, by rw [guards], fun _ => by
    rw [World.spentOn, guards, World.spentOn]⟩
  · rw [history]
    exact fun _ _ noted => .inl noted
  · rw [history]
    exact fun _ _ _ reopened => reopened

end SameBooks

theorem History.total_modify {history : History} {weigh : (id : ℕ) → Attempt → ℤ} {id : ℕ} {attempt : Attempt}
    (found : history.attempts.lookup id = some attempt) (change : Attempt → Attempt) :
    (history.modify (some id) change).attempts.total weigh =
      history.attempts.total weigh - weigh id attempt + weigh id (change attempt) := by
  simp only [History.modify, found, AList.total_insert, AList.weightAt_of_lookup found]

/-- A change of one attempt, with what it does to the counter. -/
structure Edits (tid : ℕ) (before after : World) (id : ℕ) (attempt : Attempt) (change : Attempt → Attempt) : Prop where
  found : before.history.attempts.lookup id = some attempt
  attempts : after.history.attempts = (before.history.modify (some id) change).attempts
  current : after.history.current = before.history.current
  started : after.history.started = before.history.started
  ambiguous : after.history.ambiguous = before.history.ambiguous
  reopened : ∀ other invoiceKey noted, after.history.reopened other invoiceKey = some noted →
    before.history.reopened other invoiceKey = some noted ∨ noted = id ∧ (change attempt).call.settled = true
  caps : after.guards.caps = before.guards.caps
  spent : ∀ day, after.spentOn day =
    before.spentOn day - countedWeight day id attempt + countedWeight day id (change attempt)
  plain : ∀ attempt, (change attempt).tid = attempt.tid ∧ (change attempt).invoiceKey = attempt.invoiceKey ∧
    (change attempt).amount = attempt.amount
  counted : (change attempt).call.possiblySigned = true → (change attempt).counted = true
  mine : attempt.tid = tid ∨ attempt.call.returned = true
  returned : attempt.call.returned = true → (change attempt).call.returned = true ∧
    (attempt.call.settled = true → (change attempt).call.settled = true)

namespace Edits

variable {id : ℕ} {attempt : Attempt} {change : Attempt → Attempt}

section Edited

variable (edits : Edits tid world after id attempt change)

include edits

theorem lookup (other : ℕ) : after.history.attempts.lookup other =
      if other = id then some (change attempt) else world.history.attempts.lookup other := by
  rw [edits.attempts, History.lookup_modify]
  by_cases same : other = id
  · subst same
    simp [edits.found]
  · rw [if_neg same, if_neg fun eq => same (some.inj eq).symm]

theorem row {other : ℕ} {row : Attempt}
    (found : world.history.attempts.lookup other = some row) (returned : row.call.returned = true) :
    ∃ later, after.history.attempts.lookup other = some later ∧ later.call.returned = true ∧
      (row.call.settled = true → later.call.settled = true) := by
  rw [edits.lookup]
  split_ifs with same
  · subst same
    have same := edits.found
    rw [found] at same
    cases same
    exact ⟨_, rfl, edits.returned returned⟩
  · exact ⟨row, found, returned, fun settled => settled⟩

theorem ledger (ledger : Ledger capAtomic world)
    (capped : ∀ day, after.spentOn day ≤ capAtomic) : Ledger capAtomic after where
  numbered := by
    refine ledger.numbered.congr edits.current edits.started fun other => ?_
    rw [edits.lookup]
    split_ifs with same
    · subst same
      simp [edits.found, edits.plain attempt]
    · rfl
  cap := by rw [edits.caps, ledger.cap]
  spent := by
    intro day
    rw [edits.spent, ledger.spent, World.countedOn, World.countedOn, edits.attempts, History.total_modify edits.found]
  capped := capped
  positive := by
    intro other row found
    rw [edits.lookup] at found
    split_ifs at found
    · cases found
      rw [(edits.plain attempt).2.2]
      exact ledger.positive _ _ edits.found
    · exact ledger.positive _ _ found
  counted := by
    intro other row found signed
    rw [edits.lookup] at found
    split_ifs at found
    · cases found
      exact edits.counted signed
    · exact ledger.counted _ _ found signed
  ambiguous := by
    intro invoiceKey other noted
    rw [edits.ambiguous] at noted
    obtain ⟨row, found, returned⟩ := ledger.ambiguous _ _ noted
    obtain ⟨later, now, stillReturned, _⟩ := edits.row found returned
    exact ⟨later, now, stillReturned⟩
  reopened := by
    intro other invoiceKey noted reopened
    rcases edits.reopened _ _ _ reopened with earlier | ⟨rfl, settled⟩
    · obtain ⟨row, found, settled⟩ := ledger.reopened _ _ _ earlier
      obtain ⟨later, now, _, stillSettled⟩ := edits.row found (CallState.settled_returned settled)
      exact ⟨later, now, stillSettled settled⟩
    · exact ⟨change attempt, by rw [edits.lookup, if_pos rfl], settled⟩

theorem honors : Honors tid world after where
  current := fun _ _ => by rw [edits.current]
  open_ := by
    intro other row found theirs pending
    rw [edits.lookup]
    split_ifs with same
    · subst same
      have same := edits.found
      rw [found] at same
      cases same
      rcases edits.mine with mine | returned
      · exact absurd mine theirs
      · rw [pending] at returned
        cases returned
    · exact found
  returned := fun _ _ => edits.row

theorem own {invoiceKey : String} (current : world.history.current tid invoiceKey = some id) {property : Attempt → Prop}
    (holds : property (change attempt)) : after.Mine tid invoiceKey property :=
  ⟨id, change attempt, by rw [edits.current, current], by rw [edits.lookup, if_pos rfl], holds⟩

/-- An edit of a returned attempt does not concern one that is still open. -/
theorem knows (returned : attempt.call.returned = true)
    (knows : SpendKnows tid phase world) : SpendKnows tid phase after := by
  have pending {invoiceKey : String} {property : Attempt → Prop}
      (open_ : ∀ attempt, property attempt → attempt.call.returned = false) (mine : world.Mine tid invoiceKey property) :
      after.Mine tid invoiceKey property := by
    obtain ⟨own, row, current, found, holds⟩ := mine
    refine ⟨own, row, by rw [edits.current, current], ?_, holds⟩
    rw [edits.lookup]
    split_ifs with same
    · subst same
      have same := edits.found
      rw [found] at same
      cases same
      rw [open_ _ holds] at returned
      cases returned
    · exact found
  unfold SpendKnows at knows ⊢
  split at knows
  · trivial
  · exact pending (fun row unsent => by rw [unsent.1]; rfl) knows
  · exact pending (fun row outstanding => by rw [outstanding]; rfl) knows
  · obtain ⟨own, row, current, found, holds, settled⟩ := knows
    obtain ⟨later, now, stillReturned, stillSettled⟩ := edits.row found holds
    exact ⟨own, later, by rw [edits.current, current], now, stillReturned, fun refused => stillSettled (settled refused)⟩

end Edited

end Edits

/-! ## Operations -/

variable {invoiceKey : String}

theorem spentOn_same (guards : after.guards = world.guards) (day : ℕ) : after.spentOn day = world.spentOn day := by
  rw [World.spentOn, guards, World.spentOn]

/-- A claim starts an attempt that reserved nothing and called nobody. -/
theorem start_spend (ledger : Ledger capAtomic world) {amount : ℤ} (positive : 0 < amount) (now : ℕ)
    (history : after.history = world.history.start { tid, invoiceKey, amount, day := now / dayMs })
    (guards : after.guards = world.guards) :
    Ledger capAtomic after ∧ Honors tid world after ∧ after.Mine tid invoiceKey (Unsent now amount true false) := by
  have kept : ∀ id attempt, world.history.attempts.lookup id = some attempt →
      after.history.attempts.lookup id = some attempt := by
    intro id attempt found
    have earlier := ledger.numbered.lt found
    rw [history, History.lookup_start, if_neg (by omega), found]
  have found : ∀ id attempt, after.history.attempts.lookup id = some attempt →
      attempt = { tid, invoiceKey, amount, day := now / dayMs } ∨ world.history.attempts.lookup id = some attempt := by
    intro id attempt found
    rw [history, History.lookup_start] at found
    split_ifs at found
    · exact .inl (some.inj found).symm
    · exact .inr found
  have counted : ∀ day, after.countedOn day = world.countedOn day := by
    intro day
    have absent : AList.weightAt (countedWeight day) world.history.attempts world.history.started = 0 :=
      AList.weightAt_of_absent (ledger.numbered.fresh _ le_rfl)
    simp only [World.countedOn, history, History.start, AList.total_insert, absent, countedWeight]
    simp
  have spent := spentOn_same guards
  refine ⟨⟨history ▸ ledger.numbered.start _, by rw [guards, ledger.cap], ?_, ?_, ?_, ?_, ?_, ?_⟩, ⟨?_, ?_, ?_⟩, ?_⟩
  · exact fun day => by rw [spent, counted, ledger.spent]
  · exact fun day => by rw [spent]; exact ledger.capped day
  · intro id attempt now
    rcases found id attempt now with rfl | was
    · exact positive
    · exact ledger.positive _ _ was
  · intro id attempt now signed
    rcases found id attempt now with rfl | was
    · cases signed
    · exact ledger.counted _ _ was signed
  · intro key id noted
    rw [history] at noted
    obtain ⟨attempt, was, returned⟩ := ledger.ambiguous key id noted
    exact ⟨attempt, kept _ _ was, returned⟩
  · intro other key id noted
    rw [history] at noted
    obtain ⟨attempt, was, settled⟩ := ledger.reopened other key id noted
    exact ⟨attempt, kept _ _ was, settled⟩
  · intro other distinct
    funext key
    rw [history, History.start_current, if_neg fun own => distinct own.1]
  · exact fun id attempt was _ _ => kept _ _ was
  · exact fun id attempt was returned => ⟨attempt, kept _ _ was, returned, fun settled => settled⟩
  · refine ⟨world.history.started, { tid, invoiceKey, amount, day := now / dayMs }, ?_, ?_, rfl, rfl, rfl, fun _ => rfl⟩
    · rw [history, History.start_current, if_pos ⟨rfl, rfl⟩]
    · rw [history, History.lookup_start, if_pos rfl]

/-- Re-opening settles the attempt that ended ambiguous. -/
theorem reopen_spend (ledger : Ledger capAtomic world) (knows : SpendKnows tid phase world)
    (history : after.history = world.history.reopen tid invoiceKey) (guards : after.guards = world.guards) :
    Ledger capAtomic after ∧ Honors tid world after ∧ SpendKnows tid phase after := by
  have spent := spentOn_same guards
  have reopenedOf : ∀ other key id, after.history.reopened other key = some id →
      world.history.reopened other key = some id ∨ world.history.ambiguous invoiceKey = some id := by
    intro other key id reopened
    rw [history] at reopened
    by_cases mine : other = tid
    · subst mine
      simp only [History.reopen, update_self, update_apply] at reopened
      split_ifs at reopened
      · exact .inr reopened
      · exact .inl reopened
    · simp only [History.reopen, update_of_ne mine] at reopened
      exact .inl reopened
  cases noted : world.history.ambiguous invoiceKey with
  | none =>
    have books : SameBooks world after := by
      refine ⟨?_, ?_, ?_, ?_, ?_, by rw [guards], spent⟩
      · simp [history, History.reopen, noted, History.modify]
      · simp [history, History.reopen]
      · simp [history, History.reopen]
      · intro key id was
        rw [history] at was
        simp only [History.reopen, History.modify_ambiguous] at was
        exact .inl was
      · intro other key id reopened
        rcases reopenedOf other key id reopened with was | was
        · exact was
        · rw [noted] at was
          cases was
    exact books.step ledger knows rfl
  | some id =>
    obtain ⟨attempt, found, returned⟩ := ledger.ambiguous _ _ noted
    have edits : Edits tid world after id attempt fun attempt => { attempt with call := attempt.call.disprove } := by
      refine ⟨found, ?_, ?_, ?_, ?_, ?_, by rw [guards], ?_, fun _ => ⟨rfl, rfl, rfl⟩, ?_, .inr returned, ?_⟩
      · simp [history, History.reopen, noted]
      · simp [history, History.reopen]
      · simp [history, History.reopen]
      · simp [history, History.reopen]
      · intro other key noted' reopened
        rcases reopenedOf other key noted' reopened with was | was
        · exact .inl was
        · rw [noted] at was
          cases was
          exact .inr ⟨rfl, CallState.disprove_settled returned⟩
      · intro day
        have same : countedWeight day id { attempt with call := attempt.call.disprove } = countedWeight day id attempt := rfl
        rw [spent, same]
        omega
      · intro signed
        rw [CallState.disprove_not_signed returned] at signed
        cases signed
      · intro returned
        have settled := CallState.disprove_settled returned
        exact ⟨CallState.settled_returned settled, fun _ => settled⟩
    exact ⟨edits.ledger ledger fun day => by rw [spent]; exact ledger.capped day, edits.honors, edits.knows returned knows⟩

/-- Giving a claim back is nothing to the books. -/
theorem giveBack_spend (history : after.history = world.history.giveBack tid invoiceKey)
    (guards : after.guards = world.guards) : SameBooks world after := by
  refine ⟨?_, ?_, ?_, ?_, ?_, by rw [guards], fun day => by rw [World.spentOn, guards, World.spentOn]⟩
  · simp [history]
  · simp [history]
  · simp [history]
  · exact fun key id noted => .inl (by simpa [history] using noted)
  · exact fun other key id reopened => by simpa [history] using reopened

/-- An attempt that ends ambiguous has come back. -/
theorem finalize_spend {finalStatus : StripeRouterStatus}
    (returned : finalStatus = .providerSubmittedAmbiguous → ∃ refused, world.Mine tid invoiceKey (Returned refused))
    (history : after.history = if finalStatus = .providerSubmittedAmbiguous then
        (world.history.giveBack tid invoiceKey).endAmbiguous tid invoiceKey
      else world.history.giveBack tid invoiceKey) (guards : after.guards = world.guards) : SameBooks world after := by
  have spent := spentOn_same guards
  split_ifs at history with ambiguous
  · obtain ⟨refused, own, attempt, current, found, cameBack, _⟩ := returned ambiguous
    refine ⟨?_, ?_, ?_, ?_, ?_, by rw [guards], spent⟩
    · simp [history, History.endAmbiguous]
    · simp [history, History.endAmbiguous]
    · simp [history, History.endAmbiguous]
    · intro key id noted
      rw [history] at noted
      simp only [History.endAmbiguous, History.giveBack_current, History.giveBack_ambiguous, update_apply] at noted
      split_ifs at noted
      · rw [current] at noted
        cases noted
        exact .inr ⟨attempt, found, cameBack⟩
      · exact .inl noted
    · intro other key id reopened
      rw [history] at reopened
      simpa only [History.endAmbiguous, History.giveBack_reopened] using reopened
  · exact giveBack_spend history guards

/-- The state of a request's own call changes; what may have signed was counted. -/
theorem call_spend (ledger : Ledger capAtomic world) {id : ℕ} {attempt : Attempt} {call : CallState}
    (current : world.history.current tid invoiceKey = some id)
    (found : world.history.attempts.lookup id = some attempt) (pending : attempt.call.returned = false)
    (counted : call.possiblySigned = true → attempt.counted = true)
    (history : ∃ trace, after.history = { world.history.modify (some id) fun attempt => { attempt with call } with trace })
    (guards : after.guards = world.guards) :
    Ledger capAtomic after ∧ Honors tid world after ∧
      after.Mine tid invoiceKey fun row => row = { attempt with call } := by
  obtain ⟨trace, history⟩ := history
  obtain ⟨own, foundOwn, ownTid, _⟩ := ledger.numbered.current _ _ _ current
  rw [found] at foundOwn
  cases foundOwn
  have spent := spentOn_same guards
  have edits : Edits tid world after id attempt fun attempt => { attempt with call } := by
    refine ⟨found, ?_, ?_, ?_, ?_, ?_, by rw [guards], ?_, fun _ => ⟨rfl, rfl, rfl⟩, counted, .inl ownTid, ?_⟩
    · simp [history]
    · simp [history]
    · simp [history]
    · simp [history]
    · exact fun other key noted reopened => .inl (by simpa [history] using reopened)
    · intro day
      have same : countedWeight day id { attempt with call } = countedWeight day id attempt := rfl
      rw [spent, same]
      omega
    · intro returned
      rw [pending] at returned
      cases returned
  exact ⟨edits.ledger ledger fun day => by rw [spent]; exact ledger.capped day, edits.honors, edits.own current rfl⟩

/-- A reservation counts the attempt, or leaves the books alone when the cap is in the way. -/
theorem reserve_spend (ledger : Ledger capAtomic world) {now : ℕ} {delta : ℤ}
    (mine : world.Mine tid invoiceKey (Unsent now delta true false)) :
    let done := (GuardOp.reserveDailySpend now delta).perform tid invoiceKey world
    Ledger capAtomic done.2 ∧ Honors tid world done.2 ∧
      done.2.Mine tid invoiceKey (Unsent now delta true done.1.isSome) := by
  obtain ⟨id, attempt, current, found, unsent, amount, day, uncounted⟩ := mine
  obtain ⟨own, foundOwn, ownTid, _⟩ := ledger.numbered.current _ _ _ current
  rw [found] at foundOwn
  cases foundOwn
  simp only [GuardOp.perform, GuardAction.perform, reserveDailySpend, ledger.cap, any_some, decide_eq_true_eq]
  split_ifs with exceeds reserved
  · cases reserved
  · have books : SameBooks world { world with
        guards := world.guards.setSpent .stripe (now / dayMs) (world.guards.spent .stripe (now / dayMs)) } := by
      refine ⟨rfl, rfl, rfl, fun _ _ noted => .inl noted, fun _ _ _ reopened => reopened, rfl, fun other => ?_⟩
      simp [World.spentOn, Guards.setSpent]
    exact ⟨books.ledger ledger, books.honors, books.mine ⟨id, attempt, current, found, unsent, amount, day, uncounted⟩⟩
  · have spentOf : ∀ other, ({ world with
          guards := world.guards.setSpent .stripe (now / dayMs) (world.guards.spent .stripe (now / dayMs) + delta)
          history := world.history.modify (world.history.current tid invoiceKey) fun attempt =>
            { attempt with counted := true } } : World).spentOn other =
        if other = now / dayMs then world.spentOn other + delta else world.spentOn other := by
      intro other
      simp only [World.spentOn, Guards.setSpent, update_self, update_apply]
      split_ifs with same
      · rw [same]
      · rfl
    have notCounted : attempt.counted = false := uncounted rfl
    have edits : Edits tid world { world with
        guards := world.guards.setSpent .stripe (now / dayMs) (world.guards.spent .stripe (now / dayMs) + delta)
        history := world.history.modify (world.history.current tid invoiceKey) fun attempt =>
          { attempt with counted := true } } id attempt (fun attempt => { attempt with counted := true }) := by
      refine ⟨found, by rw [current], ?_, ?_, ?_, ?_, rfl, ?_, fun _ => ⟨rfl, rfl, rfl⟩, fun _ => rfl, .inl ownTid,
        fun returned => ⟨returned, fun settled => settled⟩⟩
      · simp
      · simp
      · simp
      · exact fun other key noted reopened => .inl (by simpa using reopened)
      · intro other
        rw [spentOf]
        simp only [countedWeight, notCounted, Bool.false_eq_true, false_and, if_false, true_and, ← day]
        split_ifs with same same' same'
        · omega
        · exact absurd same.symm same'
        · exact absurd same'.symm same
        · omega
    refine ⟨edits.ledger ledger fun other => ?_, edits.honors, edits.own current ⟨unsent, amount, day, fun _ => rfl⟩⟩
    rw [spentOf]
    split_ifs with same
    · have below : world.spentOn other + delta ≤ capAtomic := by
        rw [same, World.spentOn]
        omega
      exact below
    · exact ledger.capped other
  · rename_i absent
    simp at absent

/-- A release of a counted reservation takes exactly its amount off the counter. -/
theorem release_spend (ledger : Ledger capAtomic world) {whose : Whose} {now : ℕ} {delta : ℤ} {id : ℕ}
    {attempt : Attempt} (reservation : world.history.reservation tid invoiceKey whose = some id)
    (found : world.history.attempts.lookup id = some attempt) (counted : attempt.counted = true)
    (day : attempt.day = now / dayMs) (amount : attempt.amount = delta)
    (unsigned : attempt.call.possiblySigned = false) (mine : attempt.tid = tid ∨ attempt.call.returned = true) :
    let done := (GuardOp.releaseDailySpend whose now delta).perform tid invoiceKey world
    Ledger capAtomic done.2 ∧ Edits tid world done.2 id attempt fun attempt => { attempt with counted := false } := by
  intro done
  have weight : countedWeight (now / dayMs) id attempt = delta := by
    simp [countedWeight, counted, day, amount]
  have uncounted : ∀ other, countedWeight other id { attempt with counted := false } = 0 := fun other => by
    simp [countedWeight]
  have positive := ledger.positive _ _ found
  -- what is left of the day's counter belongs to the other attempts
  have rest : 0 ≤ world.spentOn (now / dayMs) - delta := by
    have total := @History.total_modify _ (countedWeight (now / dayMs)) _ _ found fun attempt =>
      { attempt with counted := false }
    have nonneg : 0 ≤ (world.history.modify (some id) fun attempt =>
        { attempt with counted := false }).attempts.total (countedWeight (now / dayMs)) := by
      refine AList.total_nonneg fun other row now => ?_
      rw [History.lookup_modify] at now
      have rowPositive : 0 < row.amount := by
        split_ifs at now
        · obtain ⟨was, foundWas, rfl⟩ := map_eq_some_iff.mp now
          have positive := ledger.positive _ _ foundWas
          exact positive
        · exact ledger.positive _ _ now
      unfold countedWeight
      split_ifs <;> omega
    rw [total, weight, uncounted] at nonneg
    rw [ledger.spent, World.countedOn]
    omega
  have spentOf : ∀ other, done.2.spentOn other =
      world.spentOn other - countedWeight other id attempt + countedWeight other id { attempt with counted := false } := by
    intro other
    rw [uncounted]
    by_cases same : other = now / dayMs
    · subst same
      rw [weight]
      have spent : done.2.spentOn (now / dayMs) = releaseDailySpend delta (world.spentOn (now / dayMs)) := by
        simp [done, GuardOp.perform, GuardAction.perform, World.spentOn, Guards.setSpent]
      rw [spent, releaseDailySpend, if_neg (by omega)]
      omega
    · have spent : done.2.spentOn other = world.spentOn other := by
        simp [done, GuardOp.perform, GuardAction.perform, World.spentOn, Guards.setSpent, update_of_ne same]
      have none : countedWeight other id attempt = 0 := by
        simp [countedWeight, day, Ne.symm same]
      rw [spent, none]
      omega
  have edits : Edits tid world done.2 id attempt fun attempt => { attempt with counted := false } := by
    refine ⟨found, ?_, ?_, ?_, ?_, ?_, rfl, spentOf, fun _ => ⟨rfl, rfl, rfl⟩, ?_, mine,
      fun returned => ⟨returned, fun settled => settled⟩⟩
    · simp [done, GuardOp.perform, reservation]
    · simp [done, GuardOp.perform]
    · simp [done, GuardOp.perform]
    · simp [done, GuardOp.perform]
    · exact fun other key noted reopened => .inl (by simpa [done, GuardOp.perform] using reopened)
    · intro signed
      rw [unsigned] at signed
      cases signed
  refine ⟨edits.ledger ledger fun other => ?_, edits⟩
  rw [spentOf, uncounted]
  have capped := ledger.capped other
  unfold countedWeight
  split_ifs <;> omega

/-! ## Steps -/

theorem SpendKnows.yield (knows : SpendKnows tid phase world) :
    SpendKnows tid { phase with settlement := phase.settlement.yield } world := by
  unfold SpendKnows at knows ⊢
  cases same : phase.settlement with
  | settling key now invoiceAtomic holding reserved =>
    rw [same] at knows
    obtain ⟨id, attempt, current, found, unsent, amount, day, _⟩ := knows
    exact ⟨id, attempt, current, found, unsent, amount, day, nofun⟩
  | _ =>
    rw [same] at knows
    exact knows

/-- What a give-back keeps is also kept when the claim is given up. -/
theorem SameBooks.yield (same : SameBooks world after) (ledger : Ledger capAtomic world)
    (knows : SpendKnows tid phase world) :
    Ledger capAtomic after ∧ Honors tid world after ∧
      SpendKnows tid { phase with settlement := phase.settlement.yield } after :=
  ⟨same.ledger ledger, same.honors, (same.knows rfl knows).yield⟩

theorem record_spend {op : RecordOp} (allowed : phase.allows (.record invoiceKey op)) (ledger : Ledger capAtomic world)
    (knows : SpendKnows tid phase world) {fault : Fault} {answer : Option op.Answer}
    (performed : fault.apply (op.perform tid invoiceKey) world = (answer, after)) :
    Ledger capAtomic after ∧ Honors tid world after ∧
      SpendKnows tid (phase.next (.record invoiceKey op) answer) after := by
  have effect := fault_cases performed
  have passive (isPassive : op.passive = true) : SameBooks world after := by
    rcases effect with ⟨_, rfl⟩ | ⟨_, rfl⟩
    · exact .refl _
    · rcases op.passive_perform world isPassive with same | ⟨next, stored, _, _⟩
      · rw [same]
        exact .refl _
      · rw [stored]
        exact .of_history rfl rfl
  cases op with
  | load | seed | stampCheck | recordCheckError | recordCheck | resolve => exact (passive rfl).step ledger knows rfl
  | inspect now source => exact (passive rfl).step ledger knows rfl
  | reopen now plan =>
    rcases effect with ⟨_, rfl⟩ | ⟨_, rfl⟩
    · exact (SameBooks.refl _).step ledger knows rfl
    · rcases RecordOp.reopen_perform world now plan with refused | ⟨record, next, -, -, -, -, -, -, reopened⟩
      · rw [refused]
        exact (SameBooks.refl _).step ledger knows rfl
      · exact reopen_spend ledger knows (by rw [reopened]) (by rw [reopened]; rfl)
  | claim input now =>
    rcases effect with ⟨rfl, rfl⟩ | ⟨answered, rfl⟩
    · exact ⟨ledger, (SameBooks.refl _).honors, trivial⟩
    · obtain ⟨next, -, -, outcome⟩ := @RecordOp.claim_perform tid invoiceKey world input now
      rcases outcome with ⟨invoiceAtomic, positive, -, -, claimed⟩ | ⟨claim, unclaimed, -, refused⟩
      · obtain ⟨kept, honors, mine⟩ :=
          start_spend ledger positive now (congrArg (fun done => done.2.history) claimed) (by rw [claimed]; rfl)
        refine ⟨kept, honors, ?_⟩
        rcases answered with rfl | rfl
        · trivial
        · rw [claimed] at mine ⊢
          exact mine
      · have books : SameBooks world ((RecordOp.claim input now).perform tid invoiceKey world).2 := by
          rw [refused]
          exact .of_history rfl rfl
        refine ⟨books.ledger ledger, books.honors, ?_⟩
        rcases answered with rfl | rfl
        · trivial
        · rw [refused]
          cases claim with
          | claimed invoiceAtomic => exact absurd rfl (unclaimed invoiceAtomic)
          | _ => trivial
  | release now releaseTo balance kind detail =>
    rcases effect with ⟨_, rfl⟩ | ⟨_, rfl⟩
    · exact (SameBooks.refl _).yield ledger knows
    · obtain ⟨next, -, -, -, released⟩ :=
        @RecordOp.release_perform tid invoiceKey world now releaseTo balance kind detail allowed.2.2
      have books : SameBooks world ((RecordOp.release now releaseTo balance kind detail).perform tid invoiceKey world).2 :=
        giveBack_spend (by rw [released]) (by rw [released]; rfl)
      exact books.yield ledger knows
  | finalize now finalStatus opts =>
    rcases effect with ⟨_, rfl⟩ | ⟨_, rfl⟩
    · exact (SameBooks.refl _).yield ledger knows
    · obtain ⟨next, -, -, -, finalized⟩ :=
        @RecordOp.finalize_perform tid invoiceKey world now finalStatus opts allowed.2.2
      have returned : finalStatus = .providerSubmittedAmbiguous →
          ∃ refused, world.Mine tid invoiceKey (Returned refused) := by
        intro ambiguous
        rcases allowed.1 with ⟨refused, answered⟩ | ⟨_, definite⟩
        · unfold SpendKnows at knows
          rw [answered] at knows
          exact ⟨refused, knows⟩
        · exact absurd ambiguous definite
      have books : SameBooks world ((RecordOp.finalize now finalStatus opts).perform tid invoiceKey world).2 :=
        finalize_spend returned (by rw [finalized]) (by rw [finalized]; rfl)
      exact books.yield ledger knows

/-- What an admitted release finds: a reservation of the right day and amount that is still counted. -/
theorem CountedRelease.found {whose : Whose} {now : ℕ} {delta : ℤ} {choice : Choice}
    (counted : CountedRelease tid (.guard invoiceKey (.releaseDailySpend whose now delta)) choice world) :
    ∃ id attempt, world.history.reservation tid invoiceKey whose = some id ∧
      world.history.attempts.lookup id = some attempt ∧ attempt.counted = true ∧ attempt.day = now / dayMs ∧
      attempt.amount = delta := by
  obtain ⟨attempt, bound, conditions⟩ := (any_eq_true _ _).mp counted
  obtain ⟨id, reservation, found⟩ := bind_eq_some_iff.mp bound
  simp only [Bool.and_eq_true, decide_eq_true_eq] at conditions
  obtain ⟨⟨counted, day⟩, amount⟩ := conditions
  exact ⟨id, attempt, reservation, found, counted, day, amount⟩

theorem release_own_spend (ledger : Ledger capAtomic world) (knows : SpendKnows tid phase world) {now : ℕ} {delta : ℤ}
    {choice : Choice} (allowed : phase.settlement.Before invoiceKey ∨ phase.settlement = .answered invoiceKey true)
    (counted : CountedRelease tid (.guard invoiceKey (.releaseDailySpend .own now delta)) choice world) :
    let done := (GuardOp.releaseDailySpend .own now delta).perform tid invoiceKey world
    Ledger capAtomic done.2 ∧ Honors tid world done.2 ∧
      SpendKnows tid { phase with settlement := phase.settlement.unreserve } done.2 := by
  intro done
  obtain ⟨id, attempt, current, found, counted, day, amount⟩ := counted.found
  obtain ⟨row, foundRow, ownTid, _⟩ := ledger.numbered.current _ _ _ current
  rw [found] at foundRow
  cases foundRow
  rcases allowed with ⟨clock, invoiceAtomic, holding, reserved, settling⟩ | answered
  · unfold SpendKnows at knows
    rw [settling] at knows
    obtain ⟨same, row, currentRow, foundRow, unsent, rowAmount, rowDay, _⟩ := knows
    have sameId : same = id := some.inj (currentRow.symm.trans current)
    subst sameId
    rw [found] at foundRow
    cases foundRow
    have unsigned : attempt.call.possiblySigned = false := by
      rw [unsent]
      rfl
    obtain ⟨kept, edits⟩ := release_spend ledger current found counted day amount unsigned (.inl ownTid)
    refine ⟨kept, edits.honors, ?_⟩
    unfold SpendKnows
    rw [settling]
    exact edits.own current ⟨unsent, rowAmount, rowDay, nofun⟩
  · have settled := knows
    unfold SpendKnows at settled
    rw [answered] at settled
    obtain ⟨same, row, currentRow, foundRow, returned, settled⟩ := settled
    have sameId : same = id := some.inj (currentRow.symm.trans current)
    subst sameId
    rw [found] at foundRow
    cases foundRow
    obtain ⟨kept, edits⟩ := release_spend ledger current found counted day amount
      (CallState.settled_not_signed (settled rfl)) (.inl ownTid)
    refine ⟨kept, edits.honors, ?_⟩
    have still := edits.knows returned knows
    unfold SpendKnows at still ⊢
    rw [answered] at still ⊢
    exact still

theorem release_reopened_spend (ledger : Ledger capAtomic world) (knows : SpendKnows tid phase world) {now : ℕ}
    {delta : ℤ} {choice : Choice}
    (counted : CountedRelease tid (.guard invoiceKey (.releaseDailySpend .reopened now delta)) choice world) :
    let done := (GuardOp.releaseDailySpend .reopened now delta).perform tid invoiceKey world
    Ledger capAtomic done.2 ∧ Honors tid world done.2 ∧ SpendKnows tid phase done.2 := by
  intro done
  obtain ⟨id, attempt, reopened, found, counted, day, amount⟩ := counted.found
  obtain ⟨row, foundRow, settled⟩ := ledger.reopened _ _ _ reopened
  rw [found] at foundRow
  cases foundRow
  have returned := CallState.settled_returned settled
  obtain ⟨kept, edits⟩ := release_spend ledger reopened found counted day amount
    (CallState.settled_not_signed settled) (.inr returned)
  exact ⟨kept, edits.honors, edits.knows returned knows⟩

theorem guard_spend {op : GuardOp} {choice : Choice} (allowed : phase.allows (.guard invoiceKey op))
    (ledger : Ledger capAtomic world) (knows : SpendKnows tid phase world)
    (counted : CountedRelease tid (.guard invoiceKey op) choice world) {answer : Option op.Answer}
    (performed : choice.fault.apply (op.perform tid invoiceKey) world = (answer, after)) :
    Ledger capAtomic after ∧ Honors tid world after ∧
      SpendKnows tid (phase.next (.guard invoiceKey op) answer) after := by
  have effect := fault_cases performed
  cases op with
  | claimInvoice now =>
    rcases effect with ⟨_, rfl⟩ | ⟨_, rfl⟩
    · exact (SameBooks.refl _).step ledger knows rfl
    · have books : SameBooks world ((GuardOp.claimInvoice now).perform tid invoiceKey world).2 :=
        ⟨rfl, rfl, rfl, fun _ _ noted => .inl noted, fun _ _ _ reopened => reopened, rfl, fun _ => rfl⟩
      exact books.step ledger knows rfl
  | reserveDailySpend now delta =>
    have settling : phase.settlement = .settling invoiceKey now delta true false := allowed
    unfold SpendKnows at knows ⊢
    simp only [Phase.next, settling, Settlement.reserve, Bool.true_and]
    rw [settling] at knows
    rcases effect with ⟨rfl, rfl⟩ | ⟨answered, rfl⟩
    · obtain ⟨id, attempt, current, found, unsent, amount, day, _⟩ := knows
      exact ⟨ledger, (SameBooks.refl _).honors, id, attempt, current, found, unsent, amount, day, by rintro ⟨⟩⟩
    · obtain ⟨kept, honors, mine⟩ := reserve_spend ledger knows
      refine ⟨kept, honors, ?_⟩
      rcases answered with rfl | rfl
      · obtain ⟨id, attempt, current, found, unsent, amount, day, _⟩ := mine
        exact ⟨id, attempt, current, found, unsent, amount, day, by rintro ⟨⟩⟩
      · exact mine
  | releaseDailySpend whose now delta =>
    cases whose with
    | own =>
      rcases effect with ⟨_, rfl⟩ | ⟨_, rfl⟩
      · refine ⟨ledger, (SameBooks.refl _).honors, ?_⟩
        have unreserved := knows.yield
        unfold SpendKnows at unreserved ⊢
        simp only [Phase.next]
        cases same : phase.settlement with
        | settling key clock invoiceAtomic holding reserved =>
          rw [same] at unreserved
          obtain ⟨id, attempt, current, found, unsent, amount, day, _⟩ := unreserved
          exact ⟨id, attempt, current, found, unsent, amount, day, by rintro ⟨⟩⟩
        | _ =>
          rw [same] at unreserved
          exact unreserved
      · exact release_own_spend ledger knows allowed counted
    | reopened =>
      rcases effect with ⟨_, rfl⟩ | ⟨_, rfl⟩
      · exact (SameBooks.refl _).step ledger knows rfl
      · exact release_reopened_spend ledger knows counted

theorem keeps_spend (capAtomic : ℤ) (tid : ℕ) :
    flow.Keeps (dailySpend capAtomic) CountedRelease tid (SpendKnows tid) where
  stable := SpendKnows.stable
  step := by
    intro phase action allowed world ledger knows choice answer after counted performed
    cases action with
    | record invoiceKey op => exact record_spend allowed ledger knows (some.inj performed)
    | guard invoiceKey op => exact guard_spend allowed ledger knows counted (some.inj performed)
    | scan | checkoutDeliveryPaused | funderBalance | decryptCapability =>
      cases performed
      exact (SameBooks.refl _).step ledger knows rfl
    | resolveStripeInvoice invoiceKey =>
      simp only [some.injEq, perform] at performed
      split at performed <;> cases performed
      · exact (SameBooks.refl _).step ledger knows rfl
      · have books : ∀ trace, SameBooks world { world with history := { world.history with trace } } := fun _ =>
          ⟨rfl, rfl, rfl, fun _ _ noted => .inl noted, fun _ _ _ reopened => reopened, rfl, fun _ => rfl⟩
        exact (books _).step ledger knows rfl
    | send invoiceKey args =>
      obtain ⟨-, guards, trace, became⟩ := send_calls performed
      obtain ⟨now, invoiceAtomic, settling⟩ := allowed
      unfold SpendKnows at knows
      rw [settling] at knows
      obtain ⟨id, attempt, current, found, unsent, amount, day, reserved⟩ := knows
      rw [current] at became
      have pending : attempt.call.returned = false := by
        rw [unsent]
        rfl
      obtain ⟨kept, honors, own, row, mine, foundRow, rfl⟩ :=
        call_spend ledger current found pending (fun _ => reserved rfl) ⟨trace, became⟩ guards
      refine ⟨kept, honors, ?_⟩
      have next : (flow.next phase (.send invoiceKey args) answer).settlement = .calling invoiceKey := by
        show phase.settlement.send = _
        rw [settling]
        rfl
      unfold SpendKnows
      rw [next]
      exact ⟨own, _, mine, foundRow, rfl⟩
    | receive invoiceKey =>
      obtain ⟨-, guards, trace, became⟩ := receive_calls performed
      have calling : phase.settlement = .calling invoiceKey := allowed
      unfold SpendKnows at knows
      rw [calling] at knows
      obtain ⟨id, attempt, current, found, outstanding⟩ := knows
      rw [current] at became
      have pending : attempt.call.returned = false := by
        rw [outstanding]
        rfl
      have counted : attempt.counted = true := ledger.counted id attempt found (by rw [outstanding]; rfl)
      obtain ⟨kept, honors, own, row, mine, foundRow, rfl⟩ := call_spend ledger current found pending (fun _ => counted)
        ⟨trace, became⟩ guards
      refine ⟨kept, honors, ?_⟩
      have next : (flow.next phase (.receive invoiceKey) answer).settlement =
          .answered invoiceKey (CallState.received (payInvoiceResult answer) = .refused) := by
        show phase.settlement.receive answer = _
        rw [calling]
        rfl
      unfold SpendKnows
      rw [next]
      refine ⟨own, _, mine, foundRow, CallState.received_returned _, fun refused => ?_⟩
      have was : CallState.received (payInvoiceResult answer) = .refused := of_decide_eq_true refused
      rw [was]
      rfl

end Books

theorem ledger_fresh {caps : DailySpendLedger → Option ℤ} {capAtomic : ℤ} (cap : caps .stripe = some capAtomic)
    (nonneg : 0 ≤ capAtomic) : Ledger capAtomic (.fresh caps) where
  numbered := ⟨fun _ _ => rfl, nofun⟩
  cap := cap
  spent := fun _ => rfl
  capped := fun _ => nonneg
  positive := nofun
  counted := nofun
  ambiguous := nofun
  reopened := nofun

/-! ## Runs -/

/-- Two seeds, then a payin event for each of the two invoices. -/
def twoInvoices : ℕ → Request
  | 0 => .seed "cpis_a" seedOfHundred 0
  | 1 => .seed "cpis_b" seedOfHundred 0
  | 2 => .webhook ⟨"cpis_a", ⟨"event_a", "payment_payin_completed", none⟩, 2⟩
  | tid => .webhook ⟨"cpis_b", ⟨"event_b", "payment_payin_completed", none⟩, tid⟩

/-- The first handler reserved, and its capability does not decrypt; the second one's call is out. -/
def undecrypted : List (ℕ × Choice) :=
  (0, {}) :: (1, {}) :: (2, {}) :: (2, {}) :: (2, {}) :: (2, {}) :: (2, {}) :: (2, {}) :: (2, {}) :: settleSteps 3

/-- The first handler returns its headroom, fails to record the outcome, and returns it again. -/
def returnedTwice : List (ℕ × Choice) := [(2, {}), (2, { fault := .failed }), (2, {})]

/-- It records the outcome at once. -/
def returnedOnce : List (ℕ × Choice) := [(2, {}), (2, {})]

end MppRouter.Routes.Stripe
