import MppRouter.Playground.PrepaidFlow

/-! # Charged when paid

A call is charged when the router has paid for it. The reaper releases what is stranded, and marks what may have been
paid; a call that it releases between its hold and its mark is dispatched all the same, and nothing tells of it.
-/

namespace MppRouter.Playground.Prepaid

open Concurrent Machine Function List Option

/-! ## What is claimed, and when it holds -/

/-- Each call has one billable leg at most; a call is committed only when its leg was paid, for the price of the leg;
and a call that was released although its leg was paid bears the reaper's mark. -/
structure BillingTruth (world : World) : Prop where
  once : world.legs.Pairwise fun first second => first.callId ≠ second.callId
  committed : ∀ callId call, world.ledger.calls.lookup callId = some call → call.status = .committed →
    ∃ leg ∈ world.legs, leg.callId = callId ∧ leg.paid = true ∧ call.charged = leg.price
  released : ∀ leg ∈ world.legs, leg.paid = true → ∀ call, world.ledger.calls.lookup leg.callId = some call →
    call.status = .released → call.reaped = true ∧ call.reapedReleasePossiblePaid = true

/-- A call that is marked as dispatched has not been released since its hold. -/
def undisturbed (action : CallAction) (world : World) : Bool :=
  match action with
  | .markDispatched callId => (world.ledger.calls.lookup callId).all fun call => call.status = .reserved
  | _ => true

abbrev Undisturbed : machine.Admits := fun _ action _ world => undisturbed action world = true

/-! ## What is known of a call -/

/-- Time passes over a call: the reaper may release it. -/
def Aged (call later : StoredCall) : Prop := later = call ∨ call.status = .reserved ∧ later = call.reap

theorem aged_cases (now : ℤ) (call : StoredCall) : Aged call (agedCall now call) := by
  unfold agedCall
  split
  · exact .inl rfl
  · next reserved =>
    split
    · exact .inl rfl
    · exact .inr ⟨not_not.mp reserved, rfl⟩

/-- The call was taken by this request, at its price, and nobody has committed it. -/
structure Holds (tid : ℕ) (callId : String) (price : ℤ) (world : World) : Prop where
  holder : world.holders callId = some tid
  call : ∃ call, world.ledger.calls.lookup callId = some call ∧ call.maxPrice = price ∧ call.status ≠ .committed

def Unbilled (callId : String) (world : World) : Prop := ∀ leg ∈ world.legs, leg.callId ≠ callId

/-- The call is marked, and if it has been released since then, the reaper has said so. -/
def Marked (callId : String) (world : World) : Prop := ∃ call, world.ledger.calls.lookup callId = some call ∧
  call.dispatched = true ∧ (call.status = .released → call.reaped = true ∧ call.reapedReleasePossiblePaid = true)

def Billed (callId : String) (price : ℤ) (paid : Bool) (world : World) : Prop :=
  ∃ leg ∈ world.legs, leg.callId = callId ∧ leg.price = price ∧ leg.paid = paid

def Knows (tid : ℕ) (phase : Phase) (world : World) : Prop :=
  match phase.stage with
  | .idle | .settled => True
  | .reserved callId price => Holds tid callId price world ∧ Unbilled callId world
  | .dispatched callId price => Holds tid callId price world ∧ Unbilled callId world ∧ Marked callId world
  | .billed callId price paid => Holds tid callId price world ∧ Billed callId price paid world

structure Books (world : World) : Prop where
  priced : ∀ callId call, world.ledger.calls.lookup callId = some call → 0 ≤ call.maxPrice
  held : ∀ callId holder, world.holders callId = some holder →
    ∃ call, world.ledger.calls.lookup callId = some call
  marked : ∀ leg ∈ world.legs, ∃ call, world.ledger.calls.lookup leg.callId = some call ∧ call.dispatched = true
  truth : BillingTruth world

/-- Over a call that another request holds, a step lets at most time pass. -/
structure Respects (tid : ℕ) (world after : World) : Prop where
  holder : ∀ callId holder, world.holders callId = some holder → holder ≠ tid → after.holders callId = some holder
  call : ∀ callId holder, world.holders callId = some holder → holder ≠ tid → ∀ call,
    world.ledger.calls.lookup callId = some call → ∃ later, after.ledger.calls.lookup callId = some later ∧ Aged call later
  leg : ∀ callId holder, world.holders callId = some holder → holder ≠ tid → ∀ leg, leg.callId = callId →
    (leg ∈ after.legs ↔ leg ∈ world.legs)

def billing : Protocol machine where
  Inv := Books
  Guar := Respects

section Steps

variable {tid : ℕ} {world after : World} {callId : String} {price : ℤ}

theorem Respects.refl (tid : ℕ) (world : World) : Respects tid world world :=
  ⟨fun _ _ held _ => held, fun _ _ _ _ call found => ⟨call, found, .inl rfl⟩, fun _ _ _ _ _ _ => Iff.rfl⟩

theorem Holds.respected {other : ℕ} (holds : Holds tid callId price world) (distinct : tid ≠ other)
    (respects : Respects other world after) : Holds tid callId price after := by
  obtain ⟨holder, call, found, priced, open_⟩ := holds
  obtain ⟨later, foundLater, aged⟩ := respects.call callId tid holder distinct call found
  refine ⟨respects.holder callId tid holder distinct, later, foundLater, ?_⟩
  rcases aged with rfl | ⟨-, rfl⟩
  · exact ⟨priced, open_⟩
  · exact ⟨priced, fun same => nomatch same⟩

theorem Unbilled.respected {other : ℕ} (unbilled : Unbilled callId world) (holds : Holds tid callId price world)
    (distinct : tid ≠ other) (respects : Respects other world after) : Unbilled callId after := by
  intro leg member same
  exact unbilled leg ((respects.leg callId tid holds.holder distinct leg same).mp member) same

theorem Marked.respected {other : ℕ} (marked : Marked callId world) (holds : Holds tid callId price world)
    (distinct : tid ≠ other) (respects : Respects other world after) : Marked callId after := by
  obtain ⟨call, found, dispatched, stranded⟩ := marked
  obtain ⟨later, foundLater, aged⟩ := respects.call callId tid holds.holder distinct call found
  refine ⟨later, foundLater, ?_⟩
  rcases aged with rfl | ⟨-, rfl⟩
  · exact ⟨dispatched, stranded⟩
  · simp [StoredCall.reap, dispatched]

theorem Billed.respected {other : ℕ} {paid : Bool} (billed : Billed callId price paid world)
    (holds : Holds tid callId price world) (distinct : tid ≠ other) (respects : Respects other world after) :
    Billed callId price paid after := by
  obtain ⟨leg, member, same, priced, isPaid⟩ := billed
  exact ⟨leg, (respects.leg callId tid holds.holder distinct leg same).mpr member, same, priced, isPaid⟩

theorem knows_stable (phase : Phase) : billing.Stable tid (Knows tid phase) := by
  intro other world after distinct _ _ respects knows
  obtain ⟨account, stage⟩ := phase
  cases stage with
  | idle => trivial
  | settled => trivial
  | reserved callId price =>
    obtain ⟨holds, unbilled⟩ := knows
    exact ⟨holds.respected distinct.symm respects, unbilled.respected holds distinct.symm respects⟩
  | dispatched callId price =>
    obtain ⟨holds, unbilled, marked⟩ := knows
    exact ⟨holds.respected distinct.symm respects, unbilled.respected holds distinct.symm respects,
      marked.respected holds distinct.symm respects⟩
  | billed callId price paid =>
    obtain ⟨holds, billed⟩ := knows
    exact ⟨holds.respected distinct.symm respects, billed.respected holds distinct.symm respects⟩

theorem BillingTruth.unique (truth : BillingTruth world) {leg other : Leg} (member : leg ∈ world.legs)
    (also : other ∈ world.legs) (same : leg.callId = other.callId) : leg = other := by
  by_contra different
  have : Std.Symm fun first second : Leg => first.callId ≠ second.callId := ⟨fun _ _ apart => apart.symm⟩
  exact truth.once.forall member also different same

/-- One request's own call gets another record, and all else stays. -/
theorem Respects.own (call : StoredCall) (holder : world.holders callId = some tid)
    (calls : after.ledger.calls = world.ledger.calls.insert callId call) (holders : after.holders = world.holders)
    (legs : after.legs = world.legs) : Respects tid world after := by
  have others (other : String) (owner : ℕ) (held : world.holders other = some owner) (distinct : owner ≠ tid) :
      other ≠ callId := by
    rintro rfl
    rw [holder] at held
    exact distinct (some.inj held).symm
  constructor
  · intro other owner held _
    rwa [holders]
  · intro other owner held distinct call found
    rw [calls, AList.lookup_insert_ne (others other owner held distinct)]
    exact ⟨call, found, .inl rfl⟩
  · intro _ _ _ _ _ _
    rw [legs]

/-- A new record of a call that keeps its price and its mark, and says the truth, keeps the books. -/
theorem Books.restate (books : Books world) {before : StoredCall} (later : StoredCall)
    (found : world.ledger.calls.lookup callId = some before)
    (calls : after.ledger.calls = world.ledger.calls.insert callId later) (holders : after.holders = world.holders)
    (legs : after.legs = world.legs) (priced : later.maxPrice = before.maxPrice)
    (marked : before.dispatched = true → later.dispatched = true)
    (committed : later.status = .committed → ∃ leg ∈ world.legs, leg.callId = callId ∧ leg.paid = true ∧
      later.charged = leg.price)
    (released : later.status = .released → ∀ leg ∈ world.legs, leg.callId = callId → leg.paid = true →
      later.reaped = true ∧ later.reapedReleasePossiblePaid = true) : Books after := by
  have lookup (other : String) (call : StoredCall) (now : after.ledger.calls.lookup other = some call) :
      (other = callId ∧ call = later) ∨ world.ledger.calls.lookup other = some call := by
    rw [calls] at now
    by_cases same : other = callId
    · subst same
      rw [AList.lookup_insert] at now
      exact .inl ⟨rfl, (some.inj now).symm⟩
    · rw [AList.lookup_insert_ne same] at now
      exact .inr now
  constructor
  · intro other call now
    rcases lookup other call now with ⟨rfl, rfl⟩ | old
    · rw [priced]
      exact books.priced other before found
    · exact books.priced other call old
  · intro other holder held
    rw [holders] at held
    rw [calls]
    by_cases same : other = callId
    · subst same
      exact ⟨later, AList.lookup_insert _⟩
    · rw [AList.lookup_insert_ne same]
      exact books.held other holder held
  · intro leg member
    rw [legs] at member
    rw [calls]
    obtain ⟨call, was, dispatched⟩ := books.marked leg member
    by_cases same : leg.callId = callId
    · rw [same] at was ⊢
      rw [found] at was
      cases was
      exact ⟨later, AList.lookup_insert _, marked dispatched⟩
    · rw [AList.lookup_insert_ne same]
      exact ⟨call, was, dispatched⟩
  · constructor
    · rw [legs]
      exact books.truth.once
    · intro other call now status
      rw [legs]
      rcases lookup other call now with ⟨rfl, rfl⟩ | old
      · exact committed status
      · exact books.truth.committed other call old status
    · intro leg member paid call now status
      rw [legs] at member
      rcases lookup leg.callId call now with ⟨same, rfl⟩ | old
      · exact released status leg member same paid
      · exact books.truth.released leg member paid call old status

variable {choice : Choice} {account : String}

section Hold
variable (call : StoredCall) (books : Books world) (missing : world.ledger.calls.lookup callId = none)
  (calls : after.ledger.calls = world.ledger.calls.insert callId call)
  (holders : after.holders = update world.holders callId (some tid)) (legs : after.legs = world.legs)

include missing in
theorem other_of_found {other : String} (found : ∃ call, world.ledger.calls.lookup other = some call) :
    other ≠ callId := by
  rintro rfl
  obtain ⟨call, found⟩ := found
  cases missing.symm.trans found

include missing calls in
theorem hold_lookup {other : String} {record : StoredCall} (found : world.ledger.calls.lookup other = some record) :
    after.ledger.calls.lookup other = some record := by
  rw [calls, AList.lookup_insert_ne (other_of_found missing ⟨record, found⟩)]
  exact found

include books missing calls holders legs in
/-- A hold on an unknown call id keeps the books. -/
theorem Books.hold (reserved : call.status = .reserved) (nonneg : 0 ≤ call.maxPrice) : Books after := by
  have back {other : String} {record : StoredCall} (now : after.ledger.calls.lookup other = some record) :
      record = call ∨ world.ledger.calls.lookup other = some record := by
    rw [calls] at now
    by_cases same : other = callId
    · subst same
      rw [AList.lookup_insert] at now
      exact .inl (some.inj now).symm
    · rw [AList.lookup_insert_ne same] at now
      exact .inr now
  constructor
  · intro other record now
    rcases back now with rfl | old
    · exact nonneg
    · exact books.priced other record old
  · intro other holder held
    rw [holders] at held
    by_cases same : other = callId
    · subst same
      exact ⟨call, by rw [calls, AList.lookup_insert]⟩
    · rw [update_of_ne same] at held
      obtain ⟨record, found⟩ := books.held other holder held
      exact ⟨record, hold_lookup call missing calls found⟩
  · intro leg member
    rw [legs] at member
    obtain ⟨record, found, dispatched⟩ := books.marked leg member
    exact ⟨record, hold_lookup call missing calls found, dispatched⟩
  · constructor
    · rw [legs]
      exact books.truth.once
    · intro other record now status
      rw [legs]
      rcases back now with rfl | old
      · cases reserved.symm.trans status
      · exact books.truth.committed other record old status
    · intro leg member paid record now status
      rw [legs] at member
      rcases back now with rfl | old
      · cases reserved.symm.trans status
      · exact books.truth.released leg member paid record old status

include books missing calls holders legs in
theorem Respects.hold : Respects tid world after := by
  constructor
  · intro other holder held _
    rw [holders, update_of_ne (other_of_found missing (books.held other holder held))]
    exact held
  · intro other holder held _ record found
    exact ⟨record, hold_lookup call missing calls found, .inl rfl⟩
  · intro _ _ _ _ _ _
    rw [legs]

include books missing calls holders legs in
theorem Holds.hold (reserved : call.status = .reserved) (priced : call.maxPrice = price) :
    Holds tid callId price after ∧ Unbilled callId after := by
  refine ⟨⟨?_, call, ?_, priced, ?_⟩, ?_⟩
  · rw [holders, update_self]
  · rw [calls, AList.lookup_insert]
  · rw [reserved]
    exact fun same => nomatch same
  · intro leg member
    rw [legs] at member
    obtain ⟨record, found, -⟩ := books.marked leg member
    exact other_of_found missing ⟨record, found⟩

end Hold

theorem take_fresh {outcome : ReserveOutcome} (fresh : Fresh outcome) : World.take tid callId (.ok outcome) world =
    { world with holders := update world.holders callId (some tid) } :=
  if_pos ⟨fresh.1, Bool.eq_false_iff.mp fresh.2⟩

/-- A hold of one's own is taken for a call id without a record. -/
theorem reserve_keeps {args : CallArgs} {answer : Option (Result ReserveOutcome)} (books : Books world)
    (performed : perform tid (.reserve account args) choice world = (answer, after)) :
    Books after ∧ Respects tid world after ∧
      Knows tid ⟨account, Stage.next .idle (.reserve account args) answer⟩ after := by
  have requested : request choice.fault (reserve · (args.body account choice.now)) (World.take tid args.callId) world =
    (answer, after) := performed
  rcases request_cases requested with ⟨rfl, rfl⟩ | ⟨result, ledger, reserved, rfl, told⟩
  · exact ⟨books, .refl tid after, trivial⟩
  rcases reserve_spec rfl reserved with ⟨rfl, refused⟩ | ⟨missing, nonneg, rfl, rfl⟩
  · have untaken : World.take tid args.callId result { world with ledger := world.ledger } = world := by
      cases result with
      | error e => rfl
      | ok outcome =>
        rw [World.take, if_neg]
        intro fresh
        exact refused outcome rfl ⟨fresh.1, Bool.eq_false_iff.mpr fresh.2⟩
    rw [untaken]
    refine ⟨books, .refl tid world, ?_⟩
    rcases answer with _ | e | outcome
    · trivial
    · trivial
    · have stays : Stage.next .idle (.reserve account args) (some (.ok outcome)) = .idle :=
        if_neg (refused outcome (told _ rfl))
      rw [stays]
      trivial
  · rw [take_fresh ⟨rfl, rfl⟩]
    let call := heldCall (args.body account choice.now) args.priceAtomic
    refine ⟨books.hold call missing rfl rfl rfl rfl nonneg, .hold call books missing rfl rfl rfl, ?_⟩
    rcases answer with _ | e | outcome
    · trivial
    · trivial
    · have taken : Stage.next .idle (.reserve account args) (some (.ok outcome)) =
          .reserved args.callId args.priceAtomic := by
        cases told _ rfl
        rw [Stage.next, if_pos]
        exact ⟨rfl, rfl⟩
      rw [taken]
      exact Holds.hold call books missing rfl rfl rfl rfl rfl

/-- The mark is set on a call that is still reserved. -/
theorem markDispatched_keeps {answer : Option (Result Bool)} (books : Books world)
    (knows : Knows tid ⟨account, .reserved callId price⟩ world)
    (admitted : undisturbed (.markDispatched callId) world = true)
    (performed : perform tid (.markDispatched callId) choice world = (answer, after)) :
    Books after ∧ Respects tid world after ∧
      Knows tid ⟨account, Stage.next (.reserved callId price) (.markDispatched callId) answer⟩ after := by
  have requested : request choice.fault (markDispatched · callId) (fun _ after => after) world = (answer, after) :=
    performed
  obtain ⟨⟨holder, call, found, priced, uncommitted⟩, unbilled⟩ := knows
  have reserved : call.status = .reserved := by simpa [undisturbed, found] using admitted
  have unmarked : Knows tid ⟨account, .reserved callId price⟩ world :=
    ⟨⟨holder, call, found, priced, uncommitted⟩, unbilled⟩
  rcases request_cases requested with ⟨rfl, rfl⟩ | ⟨result, ledger, marked, rfl, told⟩
  · exact ⟨books, .refl tid after, unmarked⟩
  rcases markDispatched_spec marked with ⟨missing, -⟩ | ⟨stored, same, effect⟩
  · cases missing.symm.trans found
  cases found.symm.trans same
  have stays (stage : Stage) (kept : Knows tid ⟨account, .reserved callId price⟩ { world with ledger })
      (marks : Knows tid ⟨account, .dispatched callId price⟩ { world with ledger }) :
      Knows tid ⟨account, Stage.next (.reserved callId price) (.markDispatched callId) answer⟩ { world with ledger } := by
    rcases answer with _ | e | done
    · exact kept
    · exact kept
    · exact marks
  rcases effect with ⟨rfl, already⟩ | rfl
  · refine ⟨books, .refl tid world, stays .idle unmarked ?_⟩
    exact ⟨unmarked.1, unbilled, call, found, already reserved, fun released => by cases reserved.symm.trans released⟩
  · let later : StoredCall := { call with dispatched := true }
    have holds : Holds tid callId price { world with ledger := { world.ledger with
        calls := world.ledger.calls.insert callId later } } :=
      ⟨holder, later, AList.lookup_insert _, priced, uncommitted⟩
    refine ⟨books.restate later found rfl rfl rfl rfl (fun _ => rfl) ?_ ?_,
      .own later holder rfl rfl rfl, stays .idle ⟨holds, unbilled⟩
        ⟨holds, unbilled, later, AList.lookup_insert _, rfl, ?_⟩⟩
    · exact fun committed => absurd committed uncommitted
    · exact fun released => by cases reserved.symm.trans released
    · exact fun released => by cases reserved.symm.trans released

/-- The billable leg of a marked call is its only one. -/
theorem callUpstream_keeps {args : CallArgs} {route : Route} (books : Books world)
    (knows : Knows tid ⟨account, .dispatched args.callId args.priceAtomic⟩ world) :
    let after := { world with legs := ⟨args.callId, tid, args.priceAtomic, choice.wire.paid route⟩ :: world.legs }
    Books after ∧ Respects tid world after ∧
      Knows tid ⟨account, .billed args.callId args.priceAtomic (choice.wire.paid route)⟩ after := by
  obtain ⟨holds, unbilled, call, found, dispatched, stranded⟩ := knows
  refine ⟨⟨books.priced, books.held, ?_, ⟨?_, ?_, ?_⟩⟩, ⟨?_, ?_, ?_⟩, ?_⟩
  · intro leg member
    rcases mem_cons.mp member with rfl | old
    · exact ⟨call, found, dispatched⟩
    · exact books.marked leg old
  · exact pairwise_cons.mpr ⟨fun leg member => (unbilled leg member).symm, books.truth.once⟩
  · intro other record now status
    obtain ⟨leg, member, rest⟩ := books.truth.committed other record now status
    exact ⟨leg, mem_cons_of_mem _ member, rest⟩
  · intro leg member paid record now status
    rcases mem_cons.mp member with rfl | old
    · cases found.symm.trans now
      exact stranded status
    · exact books.truth.released leg old paid record now status
  · exact fun _ _ held _ => held
  · exact fun _ _ _ _ record now => ⟨record, now, .inl rfl⟩
  · intro other holder held distinct leg same
    rw [mem_cons]
    refine ⟨fun member => member.resolve_left ?_, .inr⟩
    rintro rfl
    cases same
    rw [holds.holder] at held
    exact distinct (some.inj held).symm
  · exact ⟨⟨holds.holder, holds.call⟩, _, mem_cons_self, rfl, rfl, rfl⟩

/-- A call is committed by its own paid leg, and released without one. -/
theorem settle_keeps {body : SettleBody} {stage : Stage} {answer : Option (Result Settled)} (books : Books world)
    (knows : Knows tid ⟨account, stage⟩ world) (allowed : stage.allows account (.settle body))
    (performed : perform tid (.settle body) choice world = (answer, after)) :
    Books after ∧ Respects tid world after := by
  have requested : request choice.fault (settle · body) (fun _ after => after) world = (answer, after) := performed
  rcases request_cases requested with ⟨rfl, rfl⟩ | ⟨result, ledger, settled, rfl, told⟩
  · exact ⟨books, .refl tid after⟩
  -- what each stage knows of the call that it settles
  obtain ⟨price, holds, charge, unpaid⟩ : ∃ price, Holds tid body.callId price world ∧
      (body.action = .commit → body.charged = some (toString price) ∧ Billed body.callId price true world) ∧
      (body.action = .release → ∀ leg ∈ world.legs, leg.callId = body.callId → leg.paid = false) := by
    cases action : body.action with
    | release =>
      simp only [Stage.allows, action] at allowed
      obtain ⟨price, rfl | rfl⟩ := allowed
      · exact ⟨price, knows.1, nofun, fun _ leg member same => absurd same (knows.2 leg member)⟩
      · refine ⟨price, knows.1, nofun, fun _ leg member same => ?_⟩
        obtain ⟨own, also, mine, -, unpaid⟩ := knows.2
        rw [books.truth.unique member also (same.trans mine.symm)]
        exact unpaid
    | commit =>
      simp only [Stage.allows, action] at allowed
      obtain ⟨price, rfl, charged⟩ := allowed
      exact ⟨price, knows.1, fun _ => ⟨charged, knows.2⟩, nofun⟩
  obtain ⟨holder, call, found, priced, uncommitted⟩ := holds
  rcases settle_spec (fun commits => (charge commits).1) settled with ⟨rfl, -⟩ | ⟨stored, same, reserved, calls, -, -⟩
  · exact ⟨books, .refl tid world⟩
  cases found.symm.trans same
  refine ⟨books.restate _ found calls rfl rfl ?_ ?_ ?_ ?_, .own _ holder calls rfl rfl⟩
  · unfold settledCall
    cases body.action <;> rfl
  · unfold settledCall
    cases body.action <;> exact fun marked => marked
  · intro committed
    cases action : body.action with
    | release => simp [settledCall, action] at committed
    | commit =>
      obtain ⟨-, leg, member, mine, quoted, paid⟩ := charge action
      have nonneg : 0 ≤ price := priced ▸ books.priced body.callId call found
      refine ⟨leg, member, mine, paid, ?_⟩
      simp only [settledCall, action]
      rw [quoted, priced, max_eq_left nonneg, min_self]
  · intro released leg member mine paid
    cases action : body.action with
    | release => rw [unpaid action leg member mine] at paid; cases paid
    | commit => simp [settledCall, action] at released

/-- The reaper marks what may have been paid. -/
theorem reap_keeps (books : Books world) (now : ℤ) :
    let after := { world with ledger := alarm world.ledger now }
    Books after ∧ Respects tid world after := by
  have back {other : String} {later : StoredCall} (found : (alarm world.ledger now).calls.lookup other = some later) :
      ∃ call, world.ledger.calls.lookup other = some call ∧ Aged call later := by
    rw [alarm_lookup] at found
    obtain ⟨call, was, rfl⟩ := map_eq_some_iff.mp found
    exact ⟨call, was, aged_cases now call⟩
  have forth {other : String} {call : StoredCall} (found : world.ledger.calls.lookup other = some call) :
      (alarm world.ledger now).calls.lookup other = some (agedCall now call) := by
    rw [alarm_lookup, found]
    rfl
  refine ⟨⟨?_, ?_, ?_, ⟨books.truth.once, ?_, ?_⟩⟩, ⟨fun _ _ held _ => held, ?_, fun _ _ _ _ _ _ => Iff.rfl⟩⟩
  · intro other later found
    obtain ⟨call, was, rfl | ⟨-, rfl⟩⟩ := back found
    · exact books.priced other later was
    · exact books.priced other call was
  · intro other holder held
    obtain ⟨call, was⟩ := books.held other holder held
    exact ⟨_, forth was⟩
  · intro leg member
    obtain ⟨call, was, dispatched⟩ := books.marked leg member
    refine ⟨_, forth was, ?_⟩
    rcases aged_cases now call with same | ⟨-, same⟩ <;> rw [same] <;> exact dispatched
  · intro other later found status
    obtain ⟨call, was, rfl | ⟨-, rfl⟩⟩ := back found
    · exact books.truth.committed other later was status
    · cases status
  · intro leg member paid later found status
    obtain ⟨call, was, rfl | ⟨reserved, rfl⟩⟩ := back found
    · exact books.truth.released leg member paid later was status
    · obtain ⟨record, same, dispatched⟩ := books.marked leg member
      cases was.symm.trans same
      exact ⟨rfl, by simp [StoredCall.reap, dispatched]⟩
  · intro other holder _ _ call found
    exact ⟨_, forth found, aged_cases now call⟩

end Steps

theorem billing_keeps (tid : ℕ) : flow.Keeps billing Undisturbed tid (Knows tid) where
  stable := knows_stable
  step := by
    rintro ⟨account, stage⟩ action allowed world books knows choice answer after admitted performed
    replace performed := some.inj performed
    cases action with
    | reserve owner args =>
      obtain ⟨rfl, rfl⟩ := allowed
      exact reserve_keeps books performed
    | markDispatched callId =>
      obtain ⟨price, rfl⟩ := allowed
      exact markDispatched_keeps books knows admitted performed
    | callUpstream route billable =>
      cases billable with
      | none =>
        cases performed
        exact ⟨books, .refl tid world, knows⟩
      | some args =>
        obtain rfl : stage = _ := allowed
        cases performed
        exact callUpstream_keeps books knows
    | settle body =>
      obtain ⟨kept, respects⟩ := settle_keeps books knows allowed performed
      exact ⟨kept, respects, trivial⟩
    | readAccount owner =>
      have same : after = world := by
        rcases Fault.apply_cases performed with ⟨-, same⟩ | ⟨same, -⟩ <;> exact same
      rw [same]
      exact ⟨books, .refl tid world, knows⟩
    | reap =>
      obtain rfl : stage = _ := allowed
      cases performed
      obtain ⟨kept, respects⟩ : _ ∧ Respects tid _ _ := reap_keeps books choice.now
      exact ⟨kept, respects, trivial⟩
    | answer owner reply =>
      cases performed
      refine ⟨⟨books.priced, books.held, books.marked, books.truth.once, books.truth.committed, books.truth.released⟩,
        ⟨fun _ _ held _ => held, fun _ _ _ _ call found => ⟨call, found, .inl rfl⟩, fun _ _ _ _ _ _ => Iff.rfl⟩, ?_⟩
      cases stage with
      | idle => trivial
      | settled => trivial
      | reserved callId price => exact ⟨⟨knows.1.holder, knows.1.call⟩, knows.2⟩
      | dispatched callId price => exact ⟨⟨knows.1.holder, knows.1.call⟩, knows.2⟩
      | billed callId price paid => exact ⟨⟨knows.1.holder, knows.1.call⟩, knows.2⟩

theorem books_opened {ledger : Storage} (fresh : ledger.calls = ∅) : Books (World.opened ledger) := by
  have missing (callId : String) : (World.opened ledger).ledger.calls.lookup callId = none := by
    change ledger.calls.lookup callId = none
    rw [fresh, AList.lookup_empty]
  refine ⟨?_, nofun, nofun, .nil, ?_, nofun⟩
  · intro callId call found
    cases (missing callId).symm.trans found
  · intro callId call found
    cases (missing callId).symm.trans found

/-- Unless a call is released between its hold and its mark, calls are charged exactly when the router has paid. -/
theorem billed_truly (ledger : Storage) (fresh : ledger.calls = ∅) (parties : ℕ → Party) {after : machine.Config}
    (run : Run Undisturbed (serving ledger parties) after) : BillingTruth after.world := by
  let start (tid : ℕ) : Phase := ⟨(parties tid).account, .idle⟩
  have follows (tid : ℕ) : flow.Follows ((serving ledger parties).threads tid) anyhow (start tid) :=
    Typestate.Follows.mono (follows_program (parties tid)) fun _ _ _ => trivial
  have books : billing.Inv (serving ledger parties).world := books_opened fresh
  exact (Typestate.sound_each billing_keeps start books (fun _ => trivial) follows run).truth

/-- An account with one dollar. -/
def funded : Storage := { Storage.empty with balances := AList.insert "GA" 10000000 ∅ }

def decode : Party := .txDecode "GA" { callId := "call-0001", chip := "", priceAtomic := 200000 } "ab"
  ⟨"mercury_txs_by_hash", "mercury", .upstreamAuth⟩

def decoding (tid : ℕ) : Party := if tid = 0 then decode else if tid = 1 then .reaper else .idle

theorem billed_truly_once : ∃ after, Run Undisturbed (serving funded decoding) after ∧ BillingTruth after.world ∧
    after.world.legs = [⟨"call-0001", 0, 200000, true⟩] := by
  obtain ⟨after, run, passed⟩ := Config.exec_reaches Undisturbed (serving funded decoding)
    [(0, {}), (0, {}), (0, { wire := .answered false 200 (some {}) }), (0, {}), (0, {})]
    (fun world => world.legs = [⟨"call-0001", 0, 200000, true⟩]) (by decide +kernel)
  exact ⟨after, run, billed_truly funded rfl decoding run, of_decide_eq_true passed⟩

/-- A call is reaped between its hold and its mark: it is dispatched and paid, and its release bears no mark. -/
theorem paid_without_mark : ∃ after, Run (unrestricted machine) (serving funded decoding) after ∧
    ¬BillingTruth after.world := by
  obtain ⟨after, run, passed⟩ := Config.exec_reaches (unrestricted machine) (serving funded decoding)
    [(0, {}), (1, { now := 400000 }), (0, {}), (0, { wire := .answered false 200 (some {}) }), (0, {}), (0, {})]
    (fun world => (⟨"call-0001", 0, 200000, true⟩ : Leg) ∈ world.legs ∧
      (world.ledger.calls.lookup "call-0001").any fun call =>
        call.status = .released ∧ call.reapedReleasePossiblePaid = false) (by decide +kernel)
  refine ⟨after, run, fun truth => ?_⟩
  obtain ⟨member, unmarked⟩ := of_decide_eq_true passed
  obtain ⟨call, found, test⟩ := (any_eq_true _ _).mp unmarked
  obtain ⟨released, plain⟩ := of_decide_eq_true test
  have marked := (truth.released _ member rfl call found released).2
  cases plain.symm.trans marked

end MppRouter.Playground.Prepaid
