import MppRouter.Core.Finish
import MppRouter.Routes.UpiFlow

/-! # The claim of a refused order

A notification of a second-generation order claims the invoice and gives the claim back when it refuses the order.
Whether it took the claim is known to it alone: a later notification, or a poll, that refuses the order leaves the claim
of an earlier one where it is.
-/

namespace MppRouter.Routes.Upi.ClaimReleased

open Concurrent Machine Mpp Typestate Function List Option Bool

/-! ## Who took a claim, and who owes it -/

/-- The world, with what each request did with the claim of its order. -/
structure Watched where
  world : World
  /-- The invoice that each request claimed last, and for which order. -/
  took : ℕ → Option (String × String) := fun _ => none
  /-- The request that refused an order whose claim it took, until it gives it back. -/
  owing : String → Option ℕ := fun _ => none

def Watched.note (tid : ℕ) (before : Watched) (world : World) : (action : Action) → action.Answer → Watched
  | .guard (.claimInvoice invoiceKey _ (.upiOrder orderId)), claim =>
    { before with
      world, took := update before.took tid (if claim.isOk then some (invoiceKey, orderId) else none) }
  | .guard (.releaseInvoice invoiceKey .upi (.upiOrder orderId)), _ =>
    if before.took tid = some (invoiceKey, orderId) ∧ before.owing orderId = some tid then
      { before with world, owing := update before.owing orderId none }
    else { before with world }
  | .record orderId (.casV2 (.refuse _ _)), (applied, _) =>
    if applied ∧ (before.world.fulfillments orderId).any (fun record => before.took tid = some (record.invoiceKey, orderId)) then
      { before with world, owing := update before.owing orderId (some tid) }
    else { before with world }
  | _, _ => { before with world }

/-- The machine of the orders, watched. -/
abbrev watchedMachine : Machine where
  Action := Action
  Answer := Action.Answer
  Choice := Choice
  World := Watched
  perform tid action choice watched :=
    let (answer, world) := perform tid action choice watched.world
    some (answer, watched.note tid world action answer)

/-- Any requests at once, each served by a thread of its own. -/
def serving (guards : Guards) (requests : ℕ → Request) : watchedMachine.Config :=
  ⟨{ world := .fresh guards }, fun tid => (requests tid).serve⟩

/-- The order holds the claim of the invoice. -/
def holds (world : World) (invoiceKey orderId : String) : Bool :=
  (world.guards.claims invoiceKey).any fun holder => claimAllows holder .upi (.upiOrder orderId)

/-- The record is refused before execution. -/
def refused (record : UpiFulfillmentRecord) : Bool := record.failureClass = some .preExecutionRefusal

/-- An order is refused by the request that took its claim, if it holds one, and does not claim once it is refused. -/
def releases (tid : ℕ) (action : Action) (watched : Watched) : Bool :=
  match action with
  | .record orderId (.casV2 (.refuse _ _)) => (watched.world.fulfillments orderId).all fun record =>
    record.isV2Open → holds watched.world record.invoiceKey orderId → watched.took tid = some (record.invoiceKey, orderId)
  | .guard (.claimInvoice invoiceKey _ (.upiOrder orderId)) => (watched.world.fulfillments orderId).all fun record =>
    record.invoiceKey = invoiceKey → refused record → (watched.world.guards.claims invoiceKey).isSome
  | _ => true

abbrev Releases : watchedMachine.Admits := fun tid action _ watched => releases tid action watched = true

/-- Other channels do not claim for UPI orders. -/
def Foreign (requests : ℕ → Request) : Prop :=
  ∀ tid actions, requests tid = .otherChannel actions → ∀ invoiceKey channel orderId,
    .claimInvoice invoiceKey channel (.upiOrder orderId) ∉ actions

/-! ## The phases of a request -/

/-- A request follows the flow; another channel may use the guards for itself. -/
def allows (phase : UpiPhase) (action : Action) : Prop :=
  phase.allows action ∨
    ∃ guard, action = .guard guard ∧ ∀ invoiceKey channel orderId, guard ≠ .claimInvoice invoiceKey channel (.upiOrder orderId)

def phases : Typestate watchedMachine := ⟨UpiPhase, allows, UpiPhase.next⟩

/-! ## The invariant -/

/-- The order has a record that no notification can run. -/
def Closed (world : World) (orderId : String) : Prop :=
  ∃ record, world.fulfillments orderId = some record ∧ record.isV2Open = false

structure Settled (watched : Watched) : Prop where
  /-- The claim of a refused order is owed. -/
  owed : ∀ orderId record, watched.world.fulfillments orderId = some record → refused record = true →
    holds watched.world record.invoiceKey orderId = true → ∃ tid, watched.owing orderId = some tid
  took : ∀ orderId tid, watched.owing orderId = some tid → ∃ record, watched.world.fulfillments orderId = some record ∧
    watched.took tid = some (record.invoiceKey, orderId)

/-- Closed orders stay closed, and what a request took and owes is its own matter. -/
def settling : Protocol watchedMachine where
  Inv watched := Settled watched
  Guar tid watched after := (∀ orderId, Closed (Watched.world watched) orderId → Closed (Watched.world after) orderId) ∧
    (∀ other, other ≠ tid → Watched.took after other = Watched.took watched other) ∧
    ∀ orderId other, other ≠ tid → Watched.owing after orderId = some other → Watched.owing watched orderId = some other

structure Knows (own : ℕ → Option String) (tid : ℕ) (phase : UpiPhase) (watched : Watched) : Prop where
  own : phase.own = own tid
  took : watched.took tid = phase.claimed
  order : ∀ invoiceKey orderId, phase.claimed = some (invoiceKey, orderId) → phase.own = some orderId
  owes : ∀ orderId, watched.owing orderId = some tid → phase.owes = true
  entered : ∀ orderId, phase.entered = some orderId → Closed watched.world orderId

theorem knows_stable (own : ℕ → Option String) (tid : ℕ) (phase : UpiPhase) : settling.Stable tid (Knows own tid phase) := by
  rintro other watched after distinct - - ⟨closed, took, owing⟩ knows
  constructor
  · exact knows.own
  · rw [took tid (Ne.symm distinct), knows.took]
  · exact knows.order
  · exact fun orderId owed => knows.owes orderId (owing orderId tid (Ne.symm distinct) owed)
  · exact fun orderId entered => closed orderId (knows.entered orderId entered)

/-! ## What a step does to the records -/

/-- How an operation moves a record on: it is not refused unless the operation refuses it. -/
structure Moves (refuses : Prop) (before after : UpiFulfillmentRecord) : Prop where
  key : after.invoiceKey = before.invoiceKey
  closed : before.isV2Open = false → after.isV2Open = false
  refused : ¬ refuses → refused after = true → refused before = true

section Records

variable {record changed : UpiFulfillmentRecord} {refuses : Prop}

theorem closed_of_state (moved : record.state ≠ .queued) : record.isV2Open = false := by
  simp [UpiFulfillmentRecord.isV2Open, moved]

theorem transition_moves {state : FulfillmentState} (started : state ≠ .queued) (detail : TransitionDetail) (now : ℕ) :
    Moves refuses record { record.transition state detail with updatedAt := now } where
  key := rfl
  closed closed := by
    apply closed_of_state
    change (if record.state.terminal then record.state else state) ≠ .queued
    split_ifs with terminal
    · intro queued
      rw [queued] at terminal
      cases terminal
    · exact started
  refused _ refused := refused

theorem apply_moves {change : V2Change} (applied : change.apply record = some changed) (now : ℕ) :
    Moves (∃ code state, change = .refuse code state) record { changed with updatedAt := now } := by
  cases change with
  | refuse code state =>
    simp only [V2Change.apply] at applied
    split_ifs at applied with isOpen
    cases applied
    exact ⟨rfl, fun _ => closed_of_state (by simp), fun never => absurd ⟨code, state, rfl⟩ never⟩
  | queue reason =>
    simp only [V2Change.apply] at applied
    split_ifs at applied with isOpen
    cases applied
    exact ⟨rfl, fun closed => absurd isOpen (by simp [closed]), fun _ refused => refused⟩
  | freeze binding baseAmountMinor stablecoinAmountAtomic =>
    simp only [V2Change.apply] at applied
    split_ifs at applied with isOpen
    cases applied
    exact ⟨rfl, fun closed => absurd isOpen.1 (by simp [closed]), fun _ refused => refused⟩
  | acquire attemptId binding =>
    simp only [V2Change.apply] at applied
    split_ifs at applied with isOpen
    cases applied
    exact ⟨rfl, fun _ => closed_of_state (by simp), fun _ refused => refused⟩
  | mark attemptId outcome =>
    simp only [V2Change.apply] at applied
    split_ifs at applied
    cases applied
    cases outcome with
    | accepted executionRef => exact ⟨rfl, fun _ => closed_of_state (by simp [CallMark.write]), fun _ refused => refused⟩
    | ambiguous failureReason => exact ⟨rfl, fun _ => closed_of_state (by simp [CallMark.write]), fun _ refused => by cases refused⟩
    | mismatch => exact ⟨rfl, fun _ => closed_of_state (by simp [CallMark.write]), fun _ refused => by cases refused⟩
  | providerConfirmed state =>
    simp only [V2Change.apply] at applied
    split_ifs at applied
    cases applied
    exact ⟨rfl, fun _ => closed_of_state (by simp), fun _ refused => by cases refused⟩
  | providerFailed seenAt failureReason state =>
    simp only [V2Change.apply] at applied
    split_ifs at applied
    cases applied
    exact ⟨rfl, fun _ => closed_of_state (by simp), fun _ refused => by cases refused⟩
  | observe state =>
    simp only [V2Change.apply] at applied
    split_ifs at applied
    cases applied
    exact ⟨rfl, fun closed => closed, fun _ refused => refused⟩

end Records

def refusing : RecordOp → Prop
  | .casV2 (.refuse _ _) => True
  | _ => False

/-- What an operation stores: what was there, a new record that is not refused, or the record moved on. -/
theorem decide_cases {phase : UpiPhase} {orderId : String} {op : RecordOp} (allowed : phase.allows (.record orderId op)) (now : ℕ)
    (current : Option UpiFulfillmentRecord) :
    (op.decide now current).after current = current ∨
      (∃ fresh, current = none ∧ (op.decide now current).after current = some fresh ∧ refused fresh = false) ∨
      ∃ record changed, current = some record ∧ (op.decide now current).after current = some changed ∧
        Moves (refusing op) record changed := by
  cases current with
  | none =>
    cases op with
    | create fresh =>
      have unrefused : refused fresh = false := by
        have unclassed : fresh.failureClass = none := allowed.2.2.2.1
        simp [refused, unclassed]
      exact .inr (.inl ⟨fresh, rfl, rfl, unrefused⟩)
    | _ => exact .inl rfl
  | some record =>
    cases op with
    | load => exact .inl rfl
    | create fresh => exact .inl rfl
    | transition state detail => exact .inr (.inr ⟨record, _, rfl, rfl, transition_moves allowed.1 detail now⟩)
    | noteState state => exact .inr (.inr ⟨record, _, rfl, rfl, ⟨rfl, fun closed => closed, fun _ refused => refused⟩⟩)
    | casV2 change =>
      cases applied : change.apply record with
      | none =>
        left
        simp [RecordOp.decide, casV2, applied]
      | some changed =>
        have moves := apply_moves applied now
        refine .inr (.inr ⟨record, { changed with updatedAt := now }, rfl, by simp [RecordOp.decide, casV2, applied],
          moves.key, moves.closed, fun never => moves.refused ?_⟩)
        rintro ⟨code, state, rfl⟩
        exact never trivial

/-! ## What a step does to the claims -/

section Steps

variable {own : ℕ → Option String} {tid : ℕ} {phase : UpiPhase} {watched : Watched} {world : World} {orderId : String}

/-- What one operation does to the records. -/
structure Wrote (refuses : Prop) (orderId : String) (before after : World) : Prop where
  guards : after.guards = before.guards
  others : ∀ other, other ≠ orderId → after.fulfillments other = before.fulfillments other
  here : after.fulfillments orderId = before.fulfillments orderId ∨
    (∃ fresh, before.fulfillments orderId = none ∧ after.fulfillments orderId = some fresh ∧ refused fresh = false) ∨
    ∃ record changed, before.fulfillments orderId = some record ∧ after.fulfillments orderId = some changed ∧
      Moves refuses record changed

theorem record_wrote {op : RecordOp} (allowed : phase.allows (.record orderId op)) (tid : ℕ) (choice : Choice)
    (world : World) : Wrote (refusing op) orderId world (perform tid (.record orderId op) choice world).2 where
  guards := by
    change (World.remember tid orderId world op _).guards = world.guards
    unfold World.remember
    split
    · rfl
    · rfl
  others other foreign := update_of_ne foreign ..
  here := by
    have became : (perform tid (.record orderId op) choice world).2.fulfillments orderId =
        (op.decide choice.now (world.fulfillments orderId)).after (world.fulfillments orderId) := update_self ..
    rw [became]
    exact decide_cases allowed choice.now (world.fulfillments orderId)

variable {refuses : Prop}

variable {after : World} {other : String}

theorem Wrote.closed (wrote : Wrote refuses orderId world after)
    (closed : Closed world other) : Closed after other := by
  obtain ⟨record, stored, unopen⟩ := closed
  by_cases same : other = orderId
  · subst same
    rcases wrote.here with unchanged | ⟨fresh, absent, -, -⟩ | ⟨was, changed, before, became, moves⟩
    · exact ⟨record, unchanged.trans stored, unopen⟩
    · rw [absent] at stored
      cases stored
    · obtain rfl := some.inj (stored.symm.trans before)
      exact ⟨changed, became, moves.closed unopen⟩
  · exact ⟨record, (wrote.others other same).trans stored, unopen⟩

variable {record : UpiFulfillmentRecord}

/-- Where a record comes from that is there afterwards. -/
theorem Wrote.back (wrote : Wrote refuses orderId world after) (stored : after.fulfillments other = some record) :
    (world.fulfillments other = none ∧ refused record = false) ∨
      ∃ was, world.fulfillments other = some was ∧ record.invoiceKey = was.invoiceKey ∧
        (refused record = true → refused was = true ∨ other = orderId ∧ refuses) := by
  by_cases same : other = orderId
  · subst same
    rcases wrote.here with unchanged | ⟨fresh, absent, became, unrefused⟩ | ⟨was, changed, before, became, moves⟩
    · exact .inr ⟨record, unchanged.symm.trans stored, rfl, fun refused => .inl refused⟩
    · obtain rfl := some.inj (stored.symm.trans became)
      exact .inl ⟨absent, unrefused⟩
    · obtain rfl := some.inj (stored.symm.trans became)
      refine .inr ⟨was, before, moves.key, fun refused => ?_⟩
      by_cases refuses
      · exact .inr ⟨rfl, ‹_›⟩
      · exact .inl (moves.refused ‹_› refused)
  · exact .inr ⟨record, (wrote.others other same).symm.trans stored, rfl, fun refused => .inl refused⟩

/-- A record that is there stays, for its invoice. -/
theorem Wrote.forth (wrote : Wrote refuses orderId world after) (stored : world.fulfillments other = some record) :
    ∃ later, after.fulfillments other = some later ∧ later.invoiceKey = record.invoiceKey := by
  by_cases same : other = orderId
  · subst same
    rcases wrote.here with unchanged | ⟨fresh, absent, -, -⟩ | ⟨was, changed, before, became, moves⟩
    · exact ⟨record, unchanged.trans stored, rfl⟩
    · rw [absent] at stored
      cases stored
    · obtain rfl := some.inj (stored.symm.trans before)
      exact ⟨changed, became, moves.key⟩
  · exact ⟨record, (wrote.others other same).trans stored, rfl⟩

theorem Wrote.holds (wrote : Wrote refuses orderId world after) (invoiceKey other : String) :
    holds after invoiceKey other = holds world invoiceKey other := by
  unfold ClaimReleased.holds
  rw [wrote.guards]

/-- An operation that refuses nothing leaves what is owed. -/
theorem Settled.wrote (settled : Settled watched) (never : ¬ refuses)
    (wrote : Wrote refuses orderId watched.world world) : Settled { watched with world } where
  owed other record stored isRefused held := by
    rcases wrote.back stored with ⟨-, unrefused⟩ | ⟨was, before, key, back⟩
    · rw [unrefused] at isRefused
      cases isRefused
    · rcases back isRefused with earlier | ⟨-, refuses⟩
      · rw [key] at held
        exact settled.owed other was before earlier (wrote.holds _ _ ▸ held)
      · exact absurd refuses never
  took other owner owed := by
    obtain ⟨record, stored, took⟩ := settled.took other owner owed
    obtain ⟨later, became, key⟩ := wrote.forth stored
    exact ⟨later, became, key ▸ took⟩

/-- An order is owed by the request that refused it with the claim in hand. -/
theorem Settled.refuse (settled : Settled watched)
    (stored : watched.world.fulfillments orderId = some record) (wrote : Wrote True orderId watched.world world)
    (released : holds watched.world record.invoiceKey orderId = true →
      watched.took tid = some (record.invoiceKey, orderId)) :
    Settled (if watched.took tid = some (record.invoiceKey, orderId) then
      { watched with world, owing := update watched.owing orderId (some tid) } else { watched with world }) := by
  split_ifs with took
  · constructor
    · intro other later became isRefused held
      by_cases same : other = orderId
      · subst same
        exact ⟨tid, update_self ..⟩
      · rcases wrote.back became with ⟨-, unrefused⟩ | ⟨was, before, key, back⟩
        · rw [unrefused] at isRefused
          cases isRefused
        · have earlier : refused was = true := (back isRefused).resolve_right fun here => same here.1
          rw [key] at held
          obtain ⟨owner, owed⟩ := settled.owed other was before earlier (wrote.holds _ _ ▸ held)
          exact ⟨owner, (update_of_ne same ..).trans owed⟩
    · intro other owner owed
      by_cases same : other = orderId
      · subst same
        have mine : update watched.owing other (some tid) other = some owner := owed
        rw [update_self] at mine
        cases mine
        obtain ⟨later, became, key⟩ := wrote.forth stored
        exact ⟨later, became, key ▸ took⟩
      · obtain ⟨was, before, taken⟩ := settled.took other owner ((update_of_ne same ..).symm.trans owed)
        obtain ⟨later, became, key⟩ := wrote.forth before
        exact ⟨later, became, key ▸ taken⟩
  · constructor
    · intro other later became isRefused held
      rcases wrote.back became with ⟨-, unrefused⟩ | ⟨was, before, key, back⟩
      · rw [unrefused] at isRefused
        cases isRefused
      · rw [key] at held
        have held : holds watched.world was.invoiceKey other = true := wrote.holds _ _ ▸ held
        rcases back isRefused with earlier | ⟨rfl, -⟩
        · exact settled.owed other was before earlier held
        · obtain rfl := some.inj (stored.symm.trans before)
          exact absurd (released held) took
    · intro other owner owed
      obtain ⟨was, before, taken⟩ := settled.took other owner owed
      obtain ⟨later, became, key⟩ := wrote.forth before
      exact ⟨later, became, key ▸ taken⟩

/-- What a step of a request leaves. -/
def Leaves (own : ℕ → Option String) (tid : ℕ) (phase : UpiPhase) (watched after : Watched) : Prop :=
  Settled after ∧ settling.Guar tid watched after ∧ Knows own tid phase after

theorem Wrote.guar (wrote : Wrote refuses orderId watched.world world) (tid : ℕ) :
    settling.Guar tid watched { watched with world } :=
  ⟨fun _ closed => wrote.closed closed, fun _ _ => rfl, fun _ _ _ owed => owed⟩

theorem Knows.wrote (knows : Knows own tid phase watched) (wrote : Wrote refuses orderId watched.world world) :
    Knows own tid phase { watched with world } :=
  ⟨knows.own, knows.took, knows.order, knows.owes, fun other entered => wrote.closed (knows.entered other entered)⟩

/-- An operation that refuses nothing leaves what a request knows. -/
theorem plain_record (settled : Settled watched) (knows : Knows own tid phase watched) (never : ¬ refuses)
    (wrote : Wrote refuses orderId watched.world world) : Leaves own tid phase watched { watched with world } :=
  ⟨settled.wrote never wrote, wrote.guar tid, knows.wrote wrote⟩

/-- What a request knows of these matters is the same after the step. -/
theorem Leaves.alike {after : Watched} {next : UpiPhase} (left : Leaves own tid phase watched after)
    (own_ : next.own = phase.own := by rfl) (claimed : next.claimed = phase.claimed := by rfl)
    (owes : next.owes = phase.owes := by rfl) (entered : next.entered = phase.entered := by rfl) :
    Leaves own tid next watched after := by
  obtain ⟨settled, guar, knows⟩ := left
  refine ⟨settled, guar, own_ ▸ knows.own, claimed ▸ knows.took, ?_, owes ▸ knows.owes, entered ▸ knows.entered⟩
  rw [claimed, own_]
  exact knows.order

theorem Leaves.enter (left : Leaves own tid phase watched { watched with world }) (closed : Closed world orderId) :
    Leaves own tid { phase with entered := some orderId } watched { watched with world } := by
  obtain ⟨settled, guar, knows⟩ := left
  refine ⟨settled, guar, knows.own, knows.took, knows.order, knows.owes, ?_⟩
  rintro other ⟨⟩
  exact closed

theorem created_closed {fresh created : UpiFulfillmentRecord} {choice : Choice}
    (performed : perform tid (.record orderId (.create fresh)) choice world = (.created created, after))
    (first : fresh.schemaVersion ≠ some 2) : Closed after orderId := by
  simp only [perform, Prod.mk.injEq] at performed
  obtain ⟨answered, rfl⟩ := performed
  cases absent : world.fulfillments orderId with
  | some record =>
    rw [absent] at answered
    simp only [RecordOp.decide, createFulfillment, Decision.result] at answered
    split_ifs at answered
  | none =>
    refine ⟨fresh, ?_, by simp [UpiFulfillmentRecord.isV2Open, first]⟩
    change update world.fulfillments orderId _ orderId = some fresh
    rw [update_self]
    rfl

/-- A guarded change does not apply and stores nothing, or applies to the record that is there. -/
theorem casV2_cases (tid : ℕ) (orderId : String) (change : V2Change) (choice : Choice) (world : World) :
    let result := perform tid (.record orderId (.casV2 change)) choice world
    (result.1.1 = false ∧ result.2.fulfillments orderId = world.fulfillments orderId) ∨
      ∃ record changed, world.fulfillments orderId = some record ∧ change.apply record = some changed ∧
        result.1.1 = true ∧ result.1.2.isSome = true ∧
        result.2.fulfillments orderId = some { changed with updatedAt := choice.now } := by
  have became : (perform tid (.record orderId (.casV2 change)) choice world).2.fulfillments orderId =
      (casV2 choice.now change (world.fulfillments orderId)).after (world.fulfillments orderId) := update_self ..
  have answered : (perform tid (.record orderId (.casV2 change)) choice world).1 =
      (casV2 choice.now change (world.fulfillments orderId)).result := rfl
  dsimp only
  rw [became, answered]
  unfold casV2
  cases applied : (world.fulfillments orderId).bind change.apply with
  | none => exact .inl ⟨rfl, rfl⟩
  | some changed =>
    obtain ⟨record, stored, apply⟩ := bind_eq_some_iff.mp applied
    exact .inr ⟨record, changed, stored, apply, rfl, rfl, rfl⟩

theorem acquired_closed {attemptId : Uuid} {binding : V2FrozenBinding} {choice : Choice}
    (applied : (perform tid (.record orderId (.casV2 (.acquire attemptId binding))) choice world).1.1 = true) :
    Closed (perform tid (.record orderId (.casV2 (.acquire attemptId binding))) choice world).2 orderId := by
  rcases casV2_cases tid orderId (.acquire attemptId binding) choice world with
    ⟨refused, -⟩ | ⟨record, changed, -, apply, -, -, became⟩
  · rw [refused] at applied
    cases applied
  · refine ⟨_, became, closed_of_state ?_⟩
    simp only [V2Change.apply] at apply
    split_ifs at apply
    cases apply
    exact nofun

/-- A refusal keeps what is owed, as long as nobody else took the claim of the order. -/
theorem refuse_keeps {code : String} {state : Option String} (settled : Settled watched) (knows : Knows own tid phase watched)
    (choice : Choice) (released : releases tid (.record orderId (.casV2 (.refuse code state))) watched = true) :
    let result := perform tid (.record orderId (.casV2 (.refuse code state))) choice watched.world
    Leaves own tid (phase.next (.record orderId (.casV2 (.refuse code state))) result.1) watched
      (watched.note tid result.2 (.record orderId (.casV2 (.refuse code state))) result.1) := by
  intro result
  have allowed : phase.allows (.record orderId (.casV2 (.refuse code state))) := trivial
  have wrote : Wrote True orderId watched.world result.2 := record_wrote allowed tid choice watched.world
  rcases casV2_cases tid orderId (.refuse code state) choice watched.world with
    ⟨unapplied, unchanged⟩ | ⟨record, changed, stored, apply, applied, found, became⟩
  · have unapplied : result.1.1 = false := unapplied
    have wrote : Wrote False orderId watched.world result.2 := ⟨wrote.guards, wrote.others, .inl unchanged⟩
    have same : phase.next (.record orderId (.casV2 (.refuse code state))) result.1 = phase := by
      simp only [UpiPhase.next, unapplied, Bool.false_and, Bool.or_false, false_eq_true, if_false]
    have noted : watched.note tid result.2 (.record orderId (.casV2 (.refuse code state))) result.1 =
        { watched with world := result.2 } := if_neg fun both => by
      rw [unapplied] at both
      exact false_ne_true both.1
    rw [same, noted]
    exact plain_record settled knows (fun never => never) wrote
  · have applied : result.1.1 = true := applied
    have found : result.1.2.isSome = true := found
    have isOpen : record.isV2Open = true := by
      simp only [V2Change.apply] at apply
      split_ifs at apply with isOpen
      exact isOpen
    have own_ : holds watched.world record.invoiceKey orderId = true →
        watched.took tid = some (record.invoiceKey, orderId) := by
      intro held
      simpa [releases, stored, isOpen, held] using released
    have noted : watched.note tid result.2 (.record orderId (.casV2 (.refuse code state))) result.1 =
        if watched.took tid = some (record.invoiceKey, orderId) then
          { watched with world := result.2, owing := update watched.owing orderId (some tid) }
        else { watched with world := result.2 } := by
      simp [Watched.note, applied, stored]
    have phased : (phase.next (.record orderId (.casV2 (.refuse code state))) result.1).owes =
        (phase.owes || (phase.claimed.any (·.2 = orderId) && phase.entered ≠ some orderId)) := by
      simp only [UpiPhase.next, applied, found, Bool.true_and]
    have unentered : phase.entered ≠ some orderId := by
      intro entered
      obtain ⟨other, found, closed⟩ := knows.entered orderId entered
      obtain rfl := some.inj (stored.symm.trans found)
      rw [isOpen] at closed
      cases closed
    rw [noted]
    refine ⟨settled.refuse stored wrote own_, ?_, ?_⟩
    · refine ⟨fun _ closed => ?_, fun _ _ => ?_, fun other owner foreign owed => ?_⟩
      · split_ifs <;> exact wrote.closed closed
      · split_ifs <;> rfl
      · split_ifs at owed with took
        · by_cases same : other = orderId
          · subst same
            have mine : update watched.owing other (some tid) other = some owner := owed
            rw [update_self] at mine
            exact absurd (some.inj mine).symm foreign
          · exact (update_of_ne same ..).symm.trans owed
        · exact owed
    · constructor
      · exact knows.own
      · split_ifs <;> exact knows.took
      · exact knows.order
      · intro other owed
        rw [phased]
        split_ifs at owed with took
        · rw [knows.took] at took
          simp [took, unentered]
        · simp [knows.owes other owed]
      · intro other entered
        split_ifs <;> exact wrote.closed (knows.entered other entered)

/-- An operation on a record keeps what is owed, as long as it refuses no order whose claim somebody else took. -/
theorem record_keeps {op : RecordOp} (allowed : phase.allows (.record orderId op)) (settled : Settled watched)
    (knows : Knows own tid phase watched) (choice : Choice) (released : releases tid (.record orderId op) watched = true) :
    let result := perform tid (.record orderId op) choice watched.world
    Leaves own tid (phase.next (.record orderId op) result.1) watched
      (watched.note tid result.2 (.record orderId op) result.1) := by
  intro result
  have wrote : Wrote (refusing op) orderId watched.world result.2 := record_wrote allowed tid choice watched.world
  cases op with
  | load => exact (plain_record settled knows (fun never => never) wrote).alike
  | transition state detail => exact plain_record settled knows (fun never => never) wrote
  | noteState state => exact plain_record settled knows (fun never => never) wrote
  | create fresh =>
    have plain := plain_record settled knows (fun never => never) wrote
    cases answered : result.1 with
    | mismatch => exact plain
    | replay record => exact plain
    | created record =>
      by_cases second : fresh.schemaVersion = some 2
      · simp only [UpiPhase.next, second, if_true]
        exact plain
      · simp only [UpiPhase.next, second, if_false]
        have performed : perform tid (.record orderId (.create fresh)) choice watched.world = (.created record, result.2) :=
          Prod.ext answered rfl
        exact (plain.enter (created_closed performed second)).alike
  | casV2 change =>
    cases change with
    | refuse code state => exact refuse_keeps settled knows choice released
    | acquire attemptId binding =>
      have plain := plain_record settled knows (fun never => never) wrote
      cases applied : result.1.1 with
      | false =>
        simp only [UpiPhase.next, applied, false_eq_true, if_false]
        exact plain
      | true =>
        simp only [UpiPhase.next, applied, if_true]
        exact (plain.enter (acquired_closed applied)).alike
    | mark attemptId outcome =>
      have plain := plain_record settled knows (fun never => never) wrote
      cases outcome <;> exact plain.alike
    | _ => exact plain_record settled knows (fun never => never) wrote

/-! ### Guards -/

/-- A step that writes no record and leaves no order with a claim that it had not. -/
theorem Settled.guarded (settled : Settled watched) (fulfillments : world.fulfillments = watched.world.fulfillments)
    (back : ∀ other record, watched.world.fulfillments other = some record → refused record = true →
      holds world record.invoiceKey other = true → holds watched.world record.invoiceKey other = true) :
    Settled { watched with world } where
  owed other record stored isRefused held := by
    have before : watched.world.fulfillments other = some record := fulfillments ▸ stored
    exact settled.owed other record before isRefused (back other record before isRefused held)
  took other owner owed := by
    obtain ⟨record, stored, took⟩ := settled.took other owner owed
    exact ⟨record, (congrFun fulfillments other).trans stored, took⟩

theorem closed_same (fulfillments : world.fulfillments = watched.world.fulfillments)
    (closed : Closed watched.world other) : Closed world other := by
  unfold Closed
  rwa [fulfillments]

theorem Knows.same (knows : Knows own tid phase watched) (fulfillments : world.fulfillments = watched.world.fulfillments) :
    Knows own tid phase { watched with world } :=
  ⟨knows.own, knows.took, knows.order, knows.owes, fun other entered => closed_same fulfillments (knows.entered other entered)⟩

theorem guarded_leaves (settled : Settled watched) (knows : Knows own tid phase watched)
    (fulfillments : world.fulfillments = watched.world.fulfillments)
    (back : ∀ other record, watched.world.fulfillments other = some record → refused record = true →
      holds world record.invoiceKey other = true → holds watched.world record.invoiceKey other = true) :
    Leaves own tid phase watched { watched with world } :=
  ⟨settled.guarded fulfillments back, ⟨fun _ closed => closed_same fulfillments closed, fun _ _ => rfl, fun _ _ _ owed => owed⟩,
    knows.same fulfillments⟩

variable {invoiceKey : String} {channel : ClaimChannel}

/-- What a claim leaves of a claim: it is free and now given, or it stays. -/
theorem claimed_holds {invoiceKey' orderId' : String} {ref : ClaimRef} (tid : ℕ) (choice : Choice) (world : World)
    (held : holds (perform tid (.guard (.claimInvoice invoiceKey channel ref)) choice world).2 invoiceKey' orderId' = true) :
    holds world invoiceKey' orderId' = true ∨
      invoiceKey' = invoiceKey ∧ ref = .upiOrder orderId' ∧ world.guards.claims invoiceKey = none := by
  change (update world.guards.claims invoiceKey
    (claimInvoiceKey channel ref choice.now (world.guards.claims invoiceKey)).2 invoiceKey').any _ = true at held
  by_cases same : invoiceKey' = invoiceKey
  · subst same
    rw [update_self] at held
    cases free : world.guards.claims invoiceKey' with
    | some holder =>
      left
      rw [free] at held
      unfold holds
      unfold claimInvoiceKey at held
      dsimp only at held
      rw [free]
      split_ifs at held <;> exact held
    | none =>
      right
      rw [free] at held
      simp only [claimInvoiceKey, any_some, claimAllows, decide_eq_true_eq] at held
      exact ⟨rfl, held.2, rfl⟩
  · left
    rw [update_of_ne same] at held
    exact held

/-- A release takes claims away only. -/
theorem released_holds {invoiceKey' orderId' : String} {ref : ClaimRef} (tid : ℕ) (choice : Choice) (world : World)
    (held : holds (perform tid (.guard (.releaseInvoice invoiceKey channel ref)) choice world).2 invoiceKey' orderId' = true) :
    holds world invoiceKey' orderId' = true ∧
      ¬ (invoiceKey' = invoiceKey ∧ channel = .upi ∧ ref = .upiOrder orderId') := by
  change (update world.guards.claims invoiceKey
    (releaseInvoiceClaim channel ref (world.guards.claims invoiceKey)).2 invoiceKey').any _ = true at held
  by_cases same : invoiceKey' = invoiceKey
  · subst same
    rw [update_self] at held
    cases claim : world.guards.claims invoiceKey' with
    | none =>
      rw [claim] at held
      cases held
    | some holder =>
      rw [claim] at held
      unfold releaseInvoiceClaim at held
      dsimp only at held
      split_ifs at held with own_
      · cases held
      · refine ⟨?_, ?_⟩
        · unfold holds
          rw [claim]
          exact held
        · rintro ⟨-, rfl, rfl⟩
          exact own_ held
  · rw [update_of_ne same] at held
    exact ⟨held, fun both => same both.1⟩

section Guarded

variable (settled : Settled watched) (knows : Knows own tid phase watched)

include settled knows

theorem claim_keeps (mine : phase.own = some orderId) (clear : phase.owes = false) (choice : Choice)
    (released : releases tid (.guard (.claimInvoice invoiceKey channel (.upiOrder orderId))) watched = true) :
    let result := perform tid (.guard (.claimInvoice invoiceKey channel (.upiOrder orderId))) choice watched.world
    Leaves own tid (phase.next (.guard (.claimInvoice invoiceKey channel (.upiOrder orderId))) result.1) watched
      (watched.note tid result.2 (.guard (.claimInvoice invoiceKey channel (.upiOrder orderId))) result.1) := by
  intro result
  have back : ∀ other record, watched.world.fulfillments other = some record → refused record = true →
      holds result.2 record.invoiceKey other = true → holds watched.world record.invoiceKey other = true := by
    intro other record stored isRefused held
    rcases claimed_holds tid choice watched.world held with before | ⟨key, same, free⟩
    · exact before
    · obtain rfl := ClaimRef.upiOrder.inj same
      simp [releases, stored, key, isRefused, free] at released
  have plain : Settled { watched with world := result.2 } := settled.guarded rfl back
  refine ⟨⟨plain.owed, fun other owner owed => ?_⟩, ⟨fun _ closed => closed, fun other foreign => ?_, fun _ _ _ owed => owed⟩, ?_⟩
  · obtain ⟨record, stored, took⟩ := plain.took other owner owed
    have foreign : owner ≠ tid := by
      rintro rfl
      have owes := knows.owes other owed
      rw [clear] at owes
      cases owes
    exact ⟨record, stored, (update_of_ne foreign ..).trans took⟩
  · exact update_of_ne foreign ..
  · refine ⟨knows.own, update_self .., ?_, knows.owes, knows.entered⟩
    intro key other took
    change (if InvoiceClaimResult.isOk _ then some (invoiceKey, orderId) else none) = some (key, other) at took
    split_ifs at took
    cases took
    exact mine

/-- The request that owes a claim gives it back. -/
theorem release_keeps (choice : Choice) :
    let result := perform tid (.guard (.releaseInvoice invoiceKey .upi (.upiOrder orderId))) choice watched.world
    Leaves own tid (phase.next (.guard (.releaseInvoice invoiceKey .upi (.upiOrder orderId))) result.1) watched
      (watched.note tid result.2 (.guard (.releaseInvoice invoiceKey .upi (.upiOrder orderId))) result.1) := by
  intro result
  have back : ∀ other record, watched.world.fulfillments other = some record → refused record = true →
      holds result.2 record.invoiceKey other = true → holds watched.world record.invoiceKey other = true :=
    fun other record _ _ held => (released_holds tid choice watched.world held).1
  have left : Leaves own tid phase watched { watched with world := result.2 } := guarded_leaves settled knows rfl back
  obtain ⟨plain, guar, known⟩ := left
  -- a request owes the claim that it took last
  have last : ∀ other, watched.owing other = some tid → watched.took tid = some (invoiceKey, orderId) → other = orderId := by
    intro other owed took
    obtain ⟨record, -, taken⟩ := settled.took other tid owed
    rw [took] at taken
    exact (Prod.mk.inj (some.inj taken)).2.symm
  by_cases owing : watched.took tid = some (invoiceKey, orderId) ∧ watched.owing orderId = some tid
  · have noted : watched.note tid result.2 (.guard (.releaseInvoice invoiceKey .upi (.upiOrder orderId))) result.1 =
        { watched with world := result.2, owing := update watched.owing orderId none } := if_pos owing
    have kept : ∀ other owner, update watched.owing orderId none other = some owner →
        other ≠ orderId ∧ watched.owing other = some owner := by
      intro other owner owed
      by_cases same : other = orderId
      · subst same
        rw [update_self] at owed
        cases owed
      · exact ⟨same, (update_of_ne same ..).symm.trans owed⟩
    rw [noted]
    refine ⟨⟨?_, fun other owner owed => plain.took other owner (kept other owner owed).2⟩,
      ⟨guar.1, guar.2.1, fun other owner _ owed => (kept other owner owed).2⟩, ?_⟩
    · intro other record stored isRefused held
      obtain ⟨owner, owed⟩ := plain.owed other record stored isRefused held
      have foreign : other ≠ orderId := by
        rintro rfl
        obtain ⟨was, before, took⟩ := settled.took other tid owing.2
        obtain rfl := some.inj (before.symm.trans stored)
        rw [owing.1] at took
        have key := (Prod.mk.inj (some.inj took)).1
        exact (released_holds tid choice watched.world held).2 ⟨key.symm, rfl, rfl⟩
      exact ⟨owner, (update_of_ne foreign ..).trans owed⟩
    · refine ⟨known.own, known.took, known.order, fun other owed => ?_, known.entered⟩
      obtain ⟨foreign, owed⟩ := kept other tid owed
      exact absurd (last other owed owing.1) foreign
  · have noted : watched.note tid result.2 (.guard (.releaseInvoice invoiceKey .upi (.upiOrder orderId))) result.1 =
        { watched with world := result.2 } := if_neg owing
    rw [noted]
    refine ⟨plain, guar, known.own, known.took, known.order, fun other owed => ?_, known.entered⟩
    change (if phase.claimed = some (invoiceKey, orderId) then false else phase.owes) = true
    split_ifs with took
    · rw [← knows.took] at took
      obtain rfl := last other owed took
      exact absurd ⟨took, owed⟩ owing
    · exact knows.owes other owed

/-- A guard that is neither claimed nor released for an order leaves the claims of orders. -/
theorem guard_keeps {action : GuardAction}
    (allowed : allows phase (.guard action)) (choice : Choice) (released : releases tid (.guard action) watched = true) :
    let result := perform tid (.guard action) choice watched.world
    Leaves own tid (phase.next (.guard action) result.1) watched (watched.note tid result.2 (.guard action) result.1) := by
  cases action with
  | claimInvoice invoiceKey channel ref =>
    have back (foreign : ∀ orderId, ref ≠ .upiOrder orderId) : ∀ other record,
        watched.world.fulfillments other = some record → refused record = true →
        holds (perform tid (.guard (.claimInvoice invoiceKey channel ref)) choice watched.world).2 record.invoiceKey other = true →
        holds watched.world record.invoiceKey other = true := by
      intro other record _ _ held
      rcases claimed_holds tid choice watched.world held with before | ⟨-, same, -⟩
      · exact before
      · exact absurd same (foreign other)
    cases ref with
    | upiOrder orderId =>
      obtain ⟨-, orderId, same, mine, clear⟩ | ⟨guard, same, foreign⟩ := allowed
      · cases same
        exact claim_keeps settled knows mine clear choice released
      · cases same
        exact absurd rfl (foreign invoiceKey channel orderId)
    | _ => exact guarded_leaves settled knows rfl (back (by simp))
  | releaseInvoice invoiceKey channel ref =>
    have back : ∀ other record, watched.world.fulfillments other = some record → refused record = true →
        holds (perform tid (.guard (.releaseInvoice invoiceKey channel ref)) choice watched.world).2 record.invoiceKey other =
          true → holds watched.world record.invoiceKey other = true :=
      fun other record _ _ held => (released_holds tid choice watched.world held).1
    cases channel with
    | crypto => cases ref <;> exact guarded_leaves settled knows rfl back
    | upi =>
      cases ref with
      | upiOrder orderId => exact release_keeps settled knows choice
      | _ => exact guarded_leaves settled knows rfl back
  | _ => exact guarded_leaves settled knows rfl fun _ _ _ _ held => held

end Guarded

theorem keeps (own : ℕ → Option String) (tid : ℕ) : phases.Keeps settling Releases tid (Knows own tid) where
  stable := knows_stable own tid
  step phase action allowed watched settled knows choice answer after admitted performed := by
    obtain ⟨rfl, rfl⟩ := Prod.mk.inj (some.inj performed)
    cases action with
    | record orderId op =>
      obtain allowed | ⟨guard, same, -⟩ := allowed
      · exact record_keeps allowed settled knows choice admitted
      · cases same
    | guard action => exact guard_keeps settled knows allowed choice admitted
    | _ =>
      refine Leaves.alike (?_ : Leaves own tid phase watched _)
      exact guarded_leaves settled knows rfl fun _ _ _ _ held => held

end Steps

/-! ## Requests follow the phases -/

section Walk

theorem useGuards_follows (actions : List GuardAction)
    (foreign : ∀ invoiceKey channel orderId, .claimInvoice invoiceKey channel (.upiOrder orderId) ∉ actions)
    {phase : UpiPhase} (quiet : Quiet phase) :
    (upiFlow.relax allows).Follows (useGuards actions).run (fun _ after => UpiPhase.owes after = false) phase := by
  induction actions generalizing phase with
  | nil => exact quiet.1
  | cons action rest ih =>
    have own : ∀ invoiceKey channel orderId, action ≠ .claimInvoice invoiceKey channel (.upiOrder orderId) := by
      rintro invoiceKey channel orderId rfl
      exact foreign invoiceKey channel orderId (.head _)
    refine Follows.seq ⟨.inr ⟨action, rfl, own⟩, fun answer =>
      ih (fun invoiceKey channel orderId claims => foreign invoiceKey channel orderId (.tail _ claims)) ?_⟩
    have kept : (Action.guard action).calm = true → Quiet (phase.next (.guard action) answer) := fun calm => quiet.next calm answer
    cases action with
    | claimInvoice invoiceKey channel ref =>
      cases ref with
      | upiOrder orderId => exact absurd rfl (own invoiceKey channel orderId)
      | _ => exact quiet
    | _ => exact kept rfl

theorem Request.ends {requests : ℕ → Request} (foreign : Foreign requests) (tid : ℕ) :
    phases.Follows (requests tid).serve (fun _ after => UpiPhase.owes after = false) (.start (requests tid)) := by
  apply follows_watched
  by_cases other : ∃ actions, requests tid = .otherChannel actions
  · obtain ⟨actions, request⟩ := other
    rw [request]
    exact Follows.bind (useGuards_follows actions (foreign tid actions request) ⟨rfl, nofun⟩)
  · have own : ∀ actions, requests tid ≠ .otherChannel actions := fun actions same => other ⟨actions, same⟩
    exact ((requests tid).serve_ends own).relax fun _ _ allowed => .inl allowed

end Walk

/-! ## Runs -/

theorem settled_fresh (guards : Guards) : Settled { world := .fresh guards } where
  owed _ _ stored := nomatch stored
  took _ _ owed := nomatch owed

/-- While no request refuses an order whose claim another took, and none claims for an order that is refused, a refused
order with no notification on its way does not hold the claim of its invoice. -/
theorem refused_unheld {guards : Guards} {requests : ℕ → Request} {config : watchedMachine.Config}
    (run : Run Releases (serving guards requests) config) (foreign : Foreign requests) (orderId : String)
    (record : UpiFulfillmentRecord) (stored : config.world.world.fulfillments orderId = some record)
    (isRefused : refused record = true)
    (finished : ∀ tid, order (requests tid) = some orderId → config.threads tid = .pure ()) :
    holds config.world.world record.invoiceKey orderId = false := by
  have start : settling.Inv (serving guards requests).world := settled_fresh guards
  have stands : ∀ tid, ∃ phase : phases.Phase,
      Knows (fun tid => order (requests tid)) tid phase (serving guards requests).world ∧
      phases.Follows ((serving guards requests).threads tid) (fun _ phase => UpiPhase.owes phase = false) phase := by
    intro tid
    refine ⟨.start (requests tid), ?_, Request.ends foreign tid⟩
    exact ⟨rfl, rfl, fun _ _ took => (nomatch took), fun _ owed => (nomatch owed), fun _ entered => (nomatch entered)⟩
  obtain ⟨inv, stand⟩ := Typestate.reached (fun tid => keeps _ tid) start stands run
  have settled : Settled config.world := inv
  by_contra held
  obtain ⟨tid, owed⟩ := settled.owed orderId record stored isRefused (not_eq_false _ ▸ held)
  obtain ⟨phase, knows, follows⟩ := stand tid
  have own : order (requests tid) = some orderId := by
    obtain ⟨was, -, took⟩ := settled.took orderId tid owed
    rw [← knows.own]
    exact knows.order was.invoiceKey orderId (knows.took ▸ took)
  have clear : phase.owes = false := by
    rw [finished tid own] at follows
    exact follows
  rw [knows.owes orderId owed] at clear
  cases clear

/-! ## A refusal by another notification -/

def fundingBody : VerifiedFundingBody := ⟨"order", .coinbaseV1, "pl_a", "quote", none, 100, 0, none⟩

/-- A funded order of one dollar is notified once, or twice. -/
def notified (again : Bool) : ℕ → Request
  | 0 => .verifiedFunding fundingBody "hash" false
  | 1 => if again then .verifiedFunding fundingBody "hash" false else .otherChannel []
  | _ => .otherChannel []

def unreachable : Choice := { payable with live := .failed .unreachable }

/-- The order is frozen, and the invoice claimed. -/
def claimed : List (ℕ × Choice) := List.replicate 9 (0, payable)

/-- The funder has too little money: the notification that claimed the invoice refuses the order and lets it go. -/
theorem refused_unheld_once : ∃ config, Run Releases (serving noGuards (notified false)) config ∧
    ∃ record, config.world.world.fulfillments "order" = some record ∧ refused record = true ∧
      (∃ tid, config.world.took tid = some ("pl_a", "order")) ∧
      holds config.world.world record.invoiceKey "order" = false := by
  have foreign : Foreign (notified false) := by
    rintro tid actions requested invoiceKey channel orderId listed
    match tid with
    | 0 => cases requested
    | 1 | _ + 2 =>
      cases requested
      cases listed
  obtain ⟨config, run, finished, passed⟩ := Config.exec_finishes Releases (serving noGuards (notified false))
    (claimed ++ List.replicate 6 (0, { payable with balance := some 0 })) [0]
    (fun tid idle => by
      match tid with
      | 0 => exact absurd (mem_singleton_self 0) idle
      | 1 | _ + 2 => rfl)
    (fun watched => (watched.world.fulfillments "order").any fun record =>
      refused record ∧ watched.took 0 = some ("pl_a", "order")) (by decide +kernel)
  obtain ⟨record, stored, passed⟩ := any_eq_true _ _ |>.mp passed
  obtain ⟨isRefused, took⟩ := of_decide_eq_true passed
  exact ⟨config, run, record, stored, isRefused, ⟨0, took⟩,
    refused_unheld run foreign "order" record stored isRefused fun tid _ => finished tid⟩

/-- The provider is out of reach after the claim, and the order stays queued. The notification is sent again while
checkout is paused: it refuses the order, and the claim of the first one stays. -/
theorem refused_held : ∃ config, Run (unrestricted watchedMachine) (serving noGuards (notified true)) config ∧
    config.Finished ∧ ∃ record, config.world.world.fulfillments "order" = some record ∧ refused record = true ∧
      holds config.world.world record.invoiceKey "order" = true := by
  obtain ⟨config, run, finished, passed⟩ := Config.exec_finishes (unrestricted watchedMachine)
    (serving noGuards (notified true))
    (claimed ++ [(0, unreachable), (0, unreachable)] ++ List.replicate 4 (1, { payable with paused := true })) [0, 1]
    (fun tid idle => by
      match tid with
      | 0 => exact absurd (mem_cons_self ..) idle
      | 1 => exact absurd (mem_cons_of_mem _ (mem_cons_self ..)) idle
      | _ + 2 => rfl)
    (fun watched => (watched.world.fulfillments "order").any fun record =>
      refused record ∧ holds watched.world record.invoiceKey "order") (by decide +kernel)
  obtain ⟨record, stored, passed⟩ := any_eq_true _ _ |>.mp passed
  obtain ⟨isRefused, held⟩ := of_decide_eq_true passed
  exact ⟨config, run, finished, record, stored, isRefused, held⟩

end MppRouter.Routes.Upi.ClaimReleased
