import MppRouter.Routes.UpiFlow

/-! # One executor call for each UPI order

Replayed notifications re-enter a second-generation order at any stage and polls confirm it meanwhile.
The right to execute is taken by one guarded change, from a record that no refusal has reached; the
record then names the attempt that took it. So the order's one call and its refusal exclude each other.
-/

namespace MppRouter.Routes.Upi

open Concurrent Mpp Typestate Function List Machine

/-- At most one call was sent for the order, and none when it is recorded as refused before execution. -/
structure World.OneCall (world : World) (orderId : String) : Prop where
  single : (world.calls.filter fun call => call.orderId = orderId).length ≤ 1
  unrefused : ∀ record, world.fulfillments orderId = some record →
    record.failureClass = some .preExecutionRefusal → ∀ call ∈ world.calls, call.orderId ≠ orderId

/-- A record that was in a terminal state still is in that state. -/
def World.Final (before after : World) (orderId : String) : Prop :=
  ∀ record, before.fulfillments orderId = some record → record.state.terminal = true →
    ∃ next, after.fulfillments orderId = some next ∧ next.state = record.state ∧ next.phase = record.phase ∧
      next.failureClass = record.failureClass

/-! ## Changes of a record -/

namespace UpiFulfillmentRecord

/-- The attempt is known from the moment the record enters the executor, and a barred record has failed. -/
structure Lawful (record : UpiFulfillmentRecord) : Prop where
  entered : record.attemptId.isSome = true ↔ record.phase ≠ .notStarted
  refused : record.failureClass = some .preExecutionRefusal →
    record.schemaVersion = some 2 ∧ record.phase = .notStarted
  barred : record.failureClass = some .preExecutionRefusal ∨ record.failureClass = some .definiteNotPaid →
    record.state = .failed

structure Evolves (before after : UpiFulfillmentRecord) : Prop where
  schema : after.schemaVersion = before.schemaVersion
  attempt : before.attemptId.isSome = true → after.attemptId = before.attemptId
  terminal : before.state.terminal = true →
    after.state = before.state ∧ after.phase = before.phase ∧ after.failureClass = before.failureClass

variable {before middle after : UpiFulfillmentRecord}

theorem Evolves.refl (record : UpiFulfillmentRecord) : record.Evolves record :=
  ⟨rfl, fun _ => rfl, fun _ => ⟨rfl, rfl, rfl⟩⟩

theorem Evolves.trans (first : before.Evolves middle) (second : middle.Evolves after) : before.Evolves after where
  schema := second.schema.trans first.schema
  attempt := by
    intro entered
    have same := first.attempt entered
    rw [second.attempt (by rwa [same]), same]
  terminal := by
    intro terminal
    obtain ⟨state, phase, failureClass⟩ := first.terminal terminal
    obtain ⟨state', phase', failureClass'⟩ := second.terminal (by rwa [state])
    exact ⟨state'.trans state, phase'.trans phase, failureClass'.trans failureClass⟩

theorem isV2Open_iff (record : UpiFulfillmentRecord) : record.isV2Open = true ↔
    record.schemaVersion = some 2 ∧ record.state = .queued ∧ record.phase = .notStarted ∧ record.failureClass = none := by
  simp [isV2Open]

/-- An open record was never entered. -/
theorem Lawful.unentered (lawful : before.Lawful) (isOpen : before.isV2Open = true) : before.attemptId = none := by
  obtain ⟨-, -, unsent, -⟩ := (isV2Open_iff before).mp isOpen
  cases attempt : before.attemptId with
  | none => rfl
  | some id =>
    have sent := lawful.entered.mp (by rw [attempt]; rfl)
    exact absurd unsent sent

theorem transition_evolves (lawful : before.Lawful) (state : FulfillmentState) (detail : TransitionDetail) (now : ℕ) :
    before.Evolves { before.transition state detail with updatedAt := now } ∧
      Lawful { before.transition state detail with updatedAt := now } := by
  constructor
  · refine ⟨rfl, fun _ => rfl, fun terminal => ⟨?_, rfl, rfl⟩⟩
    simp [transition, terminal]
  · refine ⟨lawful.entered, lawful.refused, fun barred => ?_⟩
    have failed := lawful.barred barred
    simp [transition, failed, FulfillmentState.terminal]

theorem noteState_evolves (lawful : before.Lawful) (state : String) (now : ℕ) :
    before.Evolves { before with providerFinalState := some state, updatedAt := now } ∧
      Lawful { before with providerFinalState := some state, updatedAt := now } :=
  ⟨⟨rfl, fun _ => rfl, fun _ => ⟨rfl, rfl, rfl⟩⟩, ⟨lawful.entered, lawful.refused, lawful.barred⟩⟩

end UpiFulfillmentRecord

open UpiFulfillmentRecord

section Changes

variable {before after : UpiFulfillmentRecord}

theorem awaits_iff : before.awaits = true ↔ before.state.terminal = false ∧ before.phase ≠ .notStarted := by
  simp [UpiFulfillmentRecord.awaits]

theorem open_not_terminal (isOpen : before.isV2Open = true) : before.state.terminal = false := by
  obtain ⟨-, queued, -, -⟩ := (isV2Open_iff before).mp isOpen
  rw [queued]
  rfl

/-- A change from a state that is not terminal, which keeps the attempt. -/
theorem evolves_of_live (live : before.state.terminal = false) (schema : after.schemaVersion = before.schemaVersion)
    (attempt : before.attemptId.isSome = true → after.attemptId = before.attemptId) : before.Evolves after :=
  ⟨schema, attempt, fun terminal => by simp [live] at terminal⟩

theorem mark_lawful (lawful : before.Lawful) (calling : before.executionPhase = some .calling)
    (live : before.state.terminal = false) (outcome : CallMark) :
    before.Evolves (outcome.write before) ∧ (outcome.write before).Lawful := by
  have entered : before.attemptId.isSome = true := lawful.entered.mpr (by simp [phase, calling])
  cases outcome with
  | accepted executionRef =>
    refine ⟨evolves_of_live live rfl fun _ => rfl, ⟨?_, fun refused => ?_, fun barred => ?_⟩⟩
    · simp [CallMark.write, phase, entered]
    · have unsent := (lawful.refused refused).2
      simp [phase, calling] at unsent
    · have failed := lawful.barred barred
      simp [failed, FulfillmentState.terminal] at live
  | ambiguous failureReason =>
    refine ⟨evolves_of_live live rfl fun _ => rfl, ⟨?_, nofun, fun barred => ?_⟩⟩
    · simp [CallMark.write, phase, entered, calling]
    · simp [CallMark.write] at barred
  | mismatch =>
    refine ⟨evolves_of_live live rfl fun _ => rfl, ⟨?_, nofun, fun _ => rfl⟩⟩
    simp [CallMark.write, phase, entered]

/-- What a guarded change does: it never leaves a terminal state, and only `acquire` names an attempt. -/
theorem V2Change.apply_cases {change : V2Change} (lawful : before.Lawful) (applied : change.apply before = some after) :
    before.Evolves after ∧ after.Lawful ∧
      (after.attemptId = before.attemptId ∨
        ∃ attemptId binding, change = .acquire attemptId binding ∧ before.isV2Open = true ∧
          after.attemptId = some attemptId) := by
  cases change with
  | refuse code providerFinalState =>
    simp only [V2Change.apply] at applied
    split_ifs at applied with isOpen
    cases applied
    have unentered := lawful.unentered isOpen
    obtain ⟨schema, -, -, -⟩ := (isV2Open_iff before).mp isOpen
    refine ⟨evolves_of_live (open_not_terminal isOpen) rfl fun _ => rfl, ⟨?_, fun _ => ⟨schema, rfl⟩, fun _ => rfl⟩,
      .inl rfl⟩
    simp [phase, unentered]
  | queue reason =>
    simp only [V2Change.apply] at applied
    split_ifs at applied with isOpen
    cases applied
    exact ⟨evolves_of_live (open_not_terminal isOpen) rfl fun _ => rfl,
      ⟨lawful.entered, lawful.refused, lawful.barred⟩, .inl rfl⟩
  | freeze binding baseAmountMinor stablecoinAmountAtomic =>
    simp only [V2Change.apply] at applied
    split_ifs at applied with fits
    cases applied
    exact ⟨evolves_of_live (open_not_terminal fits.1) rfl fun _ => rfl,
      ⟨lawful.entered, lawful.refused, lawful.barred⟩, .inl rfl⟩
  | acquire attemptId binding =>
    simp only [V2Change.apply] at applied
    split_ifs at applied with isOpen
    cases applied
    have unentered := lawful.unentered isOpen
    obtain ⟨-, -, -, unclassed⟩ := (isV2Open_iff before).mp isOpen
    refine ⟨evolves_of_live (open_not_terminal isOpen) rfl fun entered => ?_, ⟨?_, ?_, ?_⟩,
      .inr ⟨attemptId, binding, rfl, isOpen, rfl⟩⟩
    · simp [unentered] at entered
    · simp [phase]
    · simp [unclassed]
    · simp [unclassed]
  | mark attemptId outcome =>
    simp only [V2Change.apply] at applied
    split_ifs at applied with guard
    cases applied
    simp only [not_or, not_not, Bool.not_eq_true] at guard
    obtain ⟨evolves, lawful⟩ := mark_lawful lawful guard.2.1 guard.2.2 outcome
    refine ⟨evolves, lawful, .inl ?_⟩
    cases outcome <;> rfl
  | providerConfirmed state =>
    simp only [V2Change.apply] at applied
    split_ifs at applied with awaits
    cases applied
    obtain ⟨live, sent⟩ := awaits_iff.mp awaits
    have entered := lawful.entered.mpr sent
    refine ⟨evolves_of_live live rfl fun _ => rfl, ⟨?_, nofun, ?_⟩, .inl rfl⟩
    · simp [phase, entered]
    · simp
  | providerFailed seenAt failureReason state =>
    simp only [V2Change.apply] at applied
    split_ifs at applied with guard
    cases applied
    obtain ⟨live, sent⟩ := awaits_iff.mp guard.1
    refine ⟨evolves_of_live live rfl fun _ => rfl, ⟨lawful.entered, nofun, ?_⟩, .inl rfl⟩
    simp
  | observe state =>
    simp only [V2Change.apply] at applied
    split_ifs at applied with same
    cases applied
    exact ⟨⟨rfl, fun _ => rfl, fun _ => ⟨rfl, rfl, rfl⟩⟩, ⟨lawful.entered, lawful.refused, lawful.barred⟩, .inl rfl⟩

end Changes

/-! ## The invariant -/

/-- The request that may execute an order: the owner of the attempt, or whoever created the record. -/
def World.executor (world : World) (orderId : String) : Option ℕ :=
  (world.fulfillments orderId).bind fun record =>
    if record.schemaVersion = some 2 then record.attemptId.map Uuid.owner else world.creators orderId

structure Single (world : World) : Prop where
  lawful : ∀ orderId record, world.fulfillments orderId = some record → record.Lawful
  executed : ∀ call ∈ world.calls, world.executor call.orderId = some call.tid
  single : (world.calls.map UpiCall.orderId).Nodup

theorem Single.unsent {world : World} (single : Single world) {orderId : String}
    (none_ : world.executor orderId = none) : ∀ call ∈ world.calls, call.orderId ≠ orderId := by
  rintro call member rfl
  have executed := single.executed call member
  rw [none_] at executed
  cases executed

theorem Single.oneCall {world : World} (single : Single world) (orderId : String) : world.OneCall orderId where
  single := by
    have one : (world.calls.filter fun call => call.orderId = orderId).length =
        (world.calls.map UpiCall.orderId).count orderId := by
      rw [← countP_eq_length_filter, count_eq_countP, countP_map]
      apply countP_congr
      intro call _
      simp [comp]
    rw [one]
    exact nodup_iff_count_le_one.mp single.single orderId
  unrefused := by
    intro record stored refused
    have lawful := single.lawful orderId record stored
    obtain ⟨schema, unsent⟩ := lawful.refused refused
    have unentered : record.attemptId = none := by
      cases attempt : record.attemptId with
      | none => rfl
      | some id => exact absurd unsent (lawful.entered.mp (by rw [attempt]; rfl))
    apply single.unsent
    simp [World.executor, stored, schema, unentered]

/-- Records evolve, their creators stay, and only its executor sends a call for an order. -/
structure Serves (tid : ℕ) (before after : World) : Prop where
  evolves : ∀ orderId record, before.fulfillments orderId = some record →
    ∃ next, after.fulfillments orderId = some next ∧ record.Evolves next
  creators : ∀ orderId, (before.fulfillments orderId).isSome = true → after.creators orderId = before.creators orderId
  sends : ∀ call ∈ after.calls, (∃ earlier ∈ before.calls, earlier.orderId = call.orderId) ∨
    before.executor call.orderId = some tid

def singleCall : Protocol upiMachine := ⟨Single, Serves⟩

/-- Who may execute an order stays. -/
theorem Serves.executor {tid executor : ℕ} {before after : World} (serves : Serves tid before after) {orderId : String}
    (executes : before.executor orderId = some executor) : after.executor orderId = some executor := by
  unfold World.executor at executes ⊢
  obtain ⟨record, stored, entitled⟩ := Option.bind_eq_some_iff.mp executes
  obtain ⟨next, storedNext, evolves⟩ := serves.evolves orderId record stored
  rw [storedNext, Option.bind_some, evolves.schema]
  by_cases schema : record.schemaVersion = some 2
  · rw [if_pos schema] at entitled ⊢
    rw [evolves.attempt, entitled]
    rw [Option.map_eq_some_iff] at entitled
    obtain ⟨id, attempt, -⟩ := entitled
    rw [attempt]
    rfl
  · rw [if_neg schema] at entitled ⊢
    rwa [serves.creators orderId (by rw [stored]; rfl)]

/-- The request may execute the order, and has not sent its call. -/
def World.Entitled (world : World) (tid : ℕ) (orderId : String) : Prop :=
  world.executor orderId = some tid ∧ ∀ call ∈ world.calls, call.orderId ≠ orderId

def CallKnows (tid : ℕ) (phase : UpiPhase) (world : World) : Prop :=
  (∀ id, phase.minted = some id → id.owner = tid) ∧
    ∀ orderId, phase.execution = .right orderId → world.Entitled tid orderId

theorem Entitled.kept {tid other : ℕ} {before after : World} {orderId : String} (serves : Serves other before after)
    (unsent : ∀ call ∈ after.calls, call.orderId = orderId → ∃ earlier ∈ before.calls, earlier.orderId = orderId)
    (entitled : before.Entitled tid orderId) : after.Entitled tid orderId := by
  refine ⟨serves.executor entitled.1, fun call member same => ?_⟩
  obtain ⟨earlier, was, sameOrder⟩ := unsent call member same
  exact entitled.2 earlier was sameOrder

theorem CallKnows.stable {tid : ℕ} (phase : UpiPhase) : singleCall.Stable tid (CallKnows tid phase) := by
  rintro other before after distinct - - serves ⟨minted, entitled⟩
  refine ⟨minted, fun orderId right => Entitled.kept serves (fun call member same => ?_) (entitled orderId right)⟩
  rcases serves.sends call member with ⟨earlier, was, sameOrder⟩ | executes
  · exact ⟨earlier, was, sameOrder.trans same⟩
  · rw [same, (entitled orderId right).1] at executes
    exact absurd (Option.some.inj executes) (Ne.symm distinct)

/-! ## Steps -/

section Steps

variable {tid : ℕ} {world after : World} {phase next : UpiPhase} {orderId : String}

/-- A step that sends nothing and keeps the records. -/
theorem kept_step (single : Single world) (knows : CallKnows tid phase world)
    (lawful : ∀ orderId record, after.fulfillments orderId = some record → record.Lawful)
    (serves : Serves tid world after)
    (calls : after.calls.map (fun call => (call.orderId, call.tid)) = world.calls.map fun call => (call.orderId, call.tid)) :
    Single after ∧ CallKnows tid phase after := by
  have back : ∀ call ∈ after.calls, ∃ earlier ∈ world.calls, earlier.orderId = call.orderId ∧ earlier.tid = call.tid := by
    intro call member
    have placed := mem_map_of_mem (f := fun call : UpiCall => (call.orderId, call.tid)) member
    rw [calls] at placed
    obtain ⟨earlier, was, same⟩ := mem_map.mp placed
    simp only [Prod.mk.injEq] at same
    exact ⟨earlier, was, same.1, same.2⟩
  refine ⟨⟨lawful, fun call member => ?_, ?_⟩, knows.1, fun orderId right => ?_⟩
  · obtain ⟨earlier, was, sameOrder, sameTid⟩ := back call member
    rw [← sameOrder, ← sameTid]
    exact serves.executor (single.executed earlier was)
  · have orders := congrArg (map Prod.fst) calls
    simp only [map_map, comp_def] at orders
    exact orders ▸ single.single
  · refine Entitled.kept serves (fun call member same => ?_) (knows.2 orderId right)
    obtain ⟨earlier, was, sameOrder, -⟩ := back call member
    exact ⟨earlier, was, sameOrder.trans same⟩

/-- Nothing happens to any order. -/
theorem same_serves (fulfillments : after.fulfillments = world.fulfillments) (creators : after.creators = world.creators)
    (calls : ∀ call ∈ after.calls, ∃ earlier ∈ world.calls, earlier.orderId = call.orderId) : Serves tid world after where
  evolves := fun orderId record stored => ⟨record, fulfillments ▸ stored, .refl record⟩
  creators := fun orderId _ => by rw [creators]
  sends := fun call member => .inl (calls call member)

section Known

variable (single : Single world) (knows : CallKnows tid phase world)

include single knows

/-- A step that touches neither records nor calls. -/
theorem quiet_step (fulfillments : after.fulfillments = world.fulfillments) (creators : after.creators = world.creators)
    (calls : after.calls = world.calls) :
    Single after ∧ Serves tid world after ∧ CallKnows tid phase after := by
  have serves : Serves tid world after :=
    same_serves fulfillments creators fun call member => ⟨call, calls ▸ member, rfl⟩
  obtain ⟨single, knows⟩ := kept_step single knows (fulfillments ▸ single.lawful) serves (by rw [calls])
  exact ⟨single, serves, knows⟩

/-- The record of one order is replaced by one it may evolve into. -/
theorem record_step {record changed : UpiFulfillmentRecord}
    (stored : world.fulfillments orderId = some record) (evolves : record.Evolves changed) (lawful : changed.Lawful)
    (became : after = { world with fulfillments := update world.fulfillments orderId (some changed) }) :
    Single after ∧ Serves tid world after ∧ CallKnows tid phase after := by
  subst became
  have serves : Serves tid world
      { world with fulfillments := update world.fulfillments orderId (some changed) } := by
    refine ⟨fun other was present => ?_, fun _ _ => rfl, fun call member => .inl ⟨call, member, rfl⟩⟩
    by_cases same : other = orderId
    · subst same
      rw [stored] at present
      cases present
      exact ⟨changed, update_self .., evolves⟩
    · exact ⟨was, (update_of_ne same ..).trans present, .refl was⟩
  have lawfulAfter : ∀ other was, update world.fulfillments orderId (some changed) other = some was →
      was.Lawful := by
    intro other was present
    by_cases same : other = orderId
    · subst same
      rw [update_self] at present
      cases present
      exact lawful
    · rw [update_of_ne same] at present
      exact single.lawful other was present
  obtain ⟨single, knows⟩ := kept_step single knows lawfulAfter serves rfl
  exact ⟨single, serves, knows⟩

/-- A new record gives its creator the right to a first-generation order. -/
theorem created_step (absent : world.fulfillments orderId = none)
    {fresh : UpiFulfillmentRecord} (unentered : fresh.attemptId = none) (unsent : fresh.phase = .notStarted)
    (unclassed : fresh.failureClass = none)
    (became : after = { world with
      creators := update world.creators orderId (some tid)
      fulfillments := update world.fulfillments orderId (some fresh) }) :
    Single after ∧ Serves tid world after ∧ CallKnows tid phase after ∧
      (fresh.schemaVersion ≠ some 2 → after.Entitled tid orderId) := by
  have noExecutor : world.executor orderId = none := by rw [World.executor, absent, Option.bind_none]
  have serves : Serves tid world after := by
    refine ⟨fun other was present => ?_, fun other present => ?_, fun call member => .inl ⟨call, by simpa [became] using member, rfl⟩⟩
    all_goals
      have distinct : other ≠ orderId := by
        rintro rfl
        simp [absent] at present
    · refine ⟨was, ?_, .refl was⟩
      rw [became]
      exact (update_of_ne distinct ..).trans present
    · rw [became]
      exact update_of_ne distinct ..
  have lawful : ∀ other was, after.fulfillments other = some was → was.Lawful := by
    intro other was present
    rw [became] at present
    by_cases same : other = orderId
    · subst same
      simp only [update_self, Option.some.injEq] at present
      subst present
      exact ⟨by simp [unentered, unsent], by simp [unclassed], by simp [unclassed]⟩
    · simp only [update_of_ne same] at present
      exact single.lawful other was present
  have calls : after.calls = world.calls := by rw [became]
  obtain ⟨singleAfter, knows⟩ := kept_step single knows lawful serves (by rw [calls])
  refine ⟨singleAfter, serves, knows, fun firstGeneration => ⟨?_, ?_⟩⟩
  · simp [World.executor, became, firstGeneration]
  · rw [calls]
    exact single.unsent noExecutor

/-- A guarded change; `acquire` gives the right to a second-generation order. -/
theorem casV2_step {change : V2Change} {now : ℕ} {applied : Bool} {result : Option UpiFulfillmentRecord}
    (answered : (casV2 now change (world.fulfillments orderId)).result = (applied, result))
    (became : after = { world with
      fulfillments := update world.fulfillments orderId
        ((casV2 now change (world.fulfillments orderId)).after (world.fulfillments orderId)) }) :
    Single after ∧ Serves tid world after ∧ CallKnows tid phase after ∧
      (applied = true → ∀ attemptId binding, change = .acquire attemptId binding → attemptId.owner = tid →
        after.Entitled tid orderId) := by
  unfold casV2 at answered became
  cases changes : (world.fulfillments orderId).bind change.apply with
  | none =>
    simp only [changes, Decision.result, Decision.after_noop, update_eq_self, Prod.mk.injEq] at answered became
    subst became
    obtain ⟨single, serves, knows⟩ := @quiet_step tid world world phase single knows rfl rfl rfl
    refine ⟨single, serves, knows, fun applied => ?_⟩
    rw [← answered.1] at applied
    cases applied
  | some changed =>
    simp only [changes, Decision.after_set] at became
    obtain ⟨record, stored, apply⟩ := Option.bind_eq_some_iff.mp changes
    have lawful := single.lawful orderId record stored
    obtain ⟨evolves, lawfulChanged, attempt⟩ := V2Change.apply_cases lawful apply
    have touched : record.Evolves { changed with updatedAt := now } := ⟨evolves.schema, evolves.attempt, evolves.terminal⟩
    have lawfulNext : UpiFulfillmentRecord.Lawful { changed with updatedAt := now } :=
      ⟨lawfulChanged.entered, lawfulChanged.refused, lawfulChanged.barred⟩
    obtain ⟨singleAfter, serves, knows⟩ := record_step single knows stored touched lawfulNext became
    refine ⟨singleAfter, serves, knows, fun _ attemptId binding acquire mine => ?_⟩
    subst acquire
    simp only [V2Change.apply] at apply
    split_ifs at apply with isOpen
    cases apply
    obtain ⟨schema, -, -, -⟩ := (isV2Open_iff record).mp isOpen
    have noExecutor : world.executor orderId = none := by
      simp [World.executor, stored, schema, lawful.unentered isOpen]
    refine ⟨?_, ?_⟩
    · simp [World.executor, became, schema, mine]
    · rw [became]
      exact single.unsent noExecutor

end Known

/-- What is written is what was there. -/
theorem rewritten {current : Option UpiFulfillmentRecord} (stored : world.fulfillments orderId = current) :
    { world with fulfillments := update world.fulfillments orderId current } = world := by
  rw [← stored, update_eq_self]

theorem record_keeps {op : RecordOp} (allowed : phase.allows (.record orderId op)) (single : Single world)
    (knows : CallKnows tid phase world) {choice : Choice} {answer : op.Answer}
    (performed : perform tid (.record orderId op) choice world = (answer, after)) :
    Single after ∧ Serves tid world after ∧ CallKnows tid (phase.next (.record orderId op) answer) after := by
  simp only [perform, Prod.mk.injEq] at performed
  obtain ⟨answered, became⟩ := performed
  cases op with
  | load =>
    have same : after = world := by
      rw [← became]
      simp [RecordOp.decide, World.remember]
    rw [same]
    exact quiet_step single knows rfl rfl rfl
  | create fresh =>
    obtain ⟨-, unentered, unsent, unclassed, -⟩ := allowed
    cases stored : world.fulfillments orderId with
    | some record =>
      have replayed : answer = if record.bodyHash = fresh.bodyHash then .replay record else .mismatch := by
        rw [← answered]
        simp [RecordOp.decide, createFulfillment, stored, Decision.result]
      have same : after = world := by
        rw [← became, stored]
        simp only [RecordOp.decide, createFulfillment, Decision.result, Decision.after_noop]
        split_ifs <;> exact rewritten stored
      rw [same, replayed]
      split_ifs <;> exact quiet_step single knows rfl rfl rfl
    | none =>
      have created : answer = .created fresh := by
        rw [← answered]
        simp [RecordOp.decide, createFulfillment, stored, Decision.result]
      obtain ⟨single, serves, knows, entitled⟩ := @created_step tid world after phase orderId single knows stored fresh
        unentered unsent unclassed (by
          rw [← became]
          simp [RecordOp.decide, createFulfillment, stored, Decision.result, World.remember])
      subst created
      refine ⟨single, serves, knows.1, fun other right => ?_⟩
      simp only [UpiPhase.next] at right
      split_ifs at right with schema
      · exact knows.2 other right
      · cases right
        exact entitled schema
  | transition state detail =>
    cases stored : world.fulfillments orderId with
    | none =>
      have same : after = world := by
        rw [← became, stored]
        exact rewritten stored
      rw [same]
      exact quiet_step single knows rfl rfl rfl
    | some record =>
      obtain ⟨evolves, lawful⟩ := transition_evolves (single.lawful orderId record stored) state detail choice.now
      apply record_step single knows stored evolves lawful
      rw [← became]
      simp [RecordOp.decide, updateFulfillment, stored, World.remember]
  | noteState state =>
    cases stored : world.fulfillments orderId with
    | none =>
      have same : after = world := by
        rw [← became, stored]
        exact rewritten stored
      rw [same]
      exact quiet_step single knows rfl rfl rfl
    | some record =>
      obtain ⟨evolves, lawful⟩ := noteState_evolves (single.lawful orderId record stored) state choice.now
      apply record_step single knows stored evolves lawful
      rw [← became]
      simp [RecordOp.decide, updateFulfillment, stored, World.remember]
  | casV2 change =>
    obtain ⟨applied, result⟩ := answer
    obtain ⟨single, serves, knows, entitled⟩ := @casV2_step tid world after phase orderId single knows change
      choice.now applied result answered became.symm
    refine ⟨single, serves, ?_⟩
    cases change with
    | acquire attemptId binding =>
      refine ⟨knows.1, fun other right => ?_⟩
      cases applied with
      | false => exact knows.2 other right
      | true =>
        cases right
        exact entitled rfl attemptId binding rfl (knows.1 attemptId allowed.1)
    | mark attemptId outcome => cases outcome <;> exact knows
    | _ => exact knows

/-- An action that touches neither records nor calls. -/
def Action.quiet : Action → Bool
  | .record _ _ | .send _ _ _ | .receiveAgent _ | .receiveStripe _ => false
  | _ => true

theorem quiet_action {action : Action} (quiet : action.quiet = true) (single : Single world)
    (knows : CallKnows tid phase world) {choice : Choice} {answer : action.Answer}
    (performed : perform tid action choice world = (answer, after)) :
    Single after ∧ Serves tid world after ∧ CallKnows tid phase after := by
  have became : after = (perform tid action choice world).2 := by rw [performed]
  cases action with
  | record | send | receiveAgent | receiveStripe => cases quiet
  | _ => exact quiet_step single knows (by rw [became]; rfl) (by rw [became]; rfl) (by rw [became]; rfl)

/-- What a request knows does not depend on how it uses the guards. -/
theorem CallKnows.guard {action : GuardAction} {answer : action.Answer} (knows : CallKnows tid phase world) :
    CallKnows tid (phase.next (.guard action) answer) world := by
  cases action with
  | claimInvoice invoiceKey channel ref => cases ref <;> exact knows
  | releaseInvoice invoiceKey channel ref => cases channel <;> cases ref <;> exact knows
  | _ => exact knows

theorem send_keeps {invoiceKey : String} {expected : Option PayInvoiceExpectedBinding}
    (right : phase.execution = .right orderId) (single : Single world) (knows : CallKnows tid phase world)
    (became : after = { world with calls := { tid, orderId, invoiceKey, expected } :: world.calls }) :
    Single after ∧ Serves tid world after ∧ CallKnows tid { phase with execution := .calling orderId } after := by
  obtain ⟨executes, unsent⟩ := knows.2 orderId right
  subst became
  refine ⟨⟨single.lawful, fun call member => ?_, ?_⟩, ?_, knows.1, nofun⟩
  · rcases mem_cons.mp member with rfl | earlier
    · exact executes
    · exact single.executed call earlier
  · rw [map_cons, nodup_cons]
    refine ⟨fun member => ?_, single.single⟩
    obtain ⟨call, earlier, same⟩ := mem_map.mp member
    exact unsent call earlier same
  · refine ⟨fun _ record stored => ⟨record, stored, .refl record⟩, fun _ _ => rfl, fun call member => ?_⟩
    rcases mem_cons.mp member with rfl | earlier
    · exact .inr executes
    · exact .inl ⟨call, earlier, rfl⟩

theorem receive_keeps {reply : UpiReply} {refused : Bool} (single : Single world) (knows : CallKnows tid phase world)
    (became : after = { world with calls := world.calls.map (UpiCall.answer tid orderId reply) }) :
    Single after ∧ Serves tid world after ∧
      CallKnows tid { phase with execution := .answered orderId refused } after := by
  have placed (call : UpiCall) :
      ((call.answer tid orderId reply).orderId, (call.answer tid orderId reply).tid) = (call.orderId, call.tid) := by
    unfold UpiCall.answer
    split_ifs <;> rfl
  have serves : Serves tid world after := by
    rw [became]
    refine same_serves rfl rfl fun call member => ?_
    obtain ⟨earlier, was, rfl⟩ := mem_map.mp member
    exact ⟨earlier, was, (congrArg Prod.fst (placed earlier)).symm⟩
  obtain ⟨single, knows⟩ := kept_step single knows (by rw [became]; exact single.lawful) serves
    (by simp only [became, map_map, comp_def, placed])
  exact ⟨single, serves, knows.1, nofun⟩

theorem keeps_call (tid : ℕ) :
    (upiFlow.relax anyGuards).Keeps singleCall (unrestricted upiMachine) tid (CallKnows tid) where
  stable := CallKnows.stable
  step := by
    intro phase action allowed world single knows choice answer after _ performed
    have done : perform tid action choice world = (answer, after) := Option.some.inj performed
    rcases allowed with allowed | ⟨guard, rfl⟩
    · cases action with
      | record orderId op => exact record_keeps allowed single knows done
      | send orderId invoiceKey expected => exact send_keeps allowed.1 single knows (congrArg Prod.snd done).symm
      | receiveAgent orderId =>
        cases done
        exact receive_keeps single knows rfl
      | receiveStripe orderId => exact receive_keeps single knows (congrArg Prod.snd done).symm
      | randomUuid =>
        obtain ⟨single, serves, knows⟩ := quiet_action rfl single knows done
        refine ⟨single, serves, ?_, knows.2⟩
        cases done
        rintro id ⟨⟩
        rfl
      | guard action =>
        obtain ⟨single, serves, knows⟩ := quiet_action rfl single knows done
        exact ⟨single, serves, knows.guard⟩
      | _ => exact quiet_action rfl single knows done
    · obtain ⟨single, serves, knows⟩ := quiet_action rfl single knows done
      exact ⟨single, serves, knows.guard⟩

end Steps

/-! ## Runs -/

theorem single_fresh (guards : Guards) : Single (.fresh guards) where
  lawful := fun _ _ stored => nomatch stored
  executed := fun _ member => nomatch member
  single := nodup_nil

theorem serving_checked (guards : Guards) (requests : ℕ → Request) :
    singleCall.Checked (unrestricted upiMachine) (serving guards requests) := by
  refine ⟨single_fresh guards, fun tid => ?_⟩
  have knows : CallKnows tid (.start (requests tid)) (World.fresh guards) := ⟨fun _ same => (nomatch same), fun _ same => (nomatch same)⟩
  exact ((requests tid).serve_relaxed.holds (keeps_call tid) knows).loose

/-- Along guaranteed steps a terminal state stays. -/
theorem final_of_guaranteed {before after : World}
    (guaranteed : Relation.ReflTransGen (fun world next => ∃ tid, Serves tid world next) before after)
    (orderId : String) : before.Final after orderId := by
  have evolves : ∀ record, before.fulfillments orderId = some record →
      ∃ next, after.fulfillments orderId = some next ∧ record.Evolves next := by
    intro record stored
    induction guaranteed with
    | refl => exact ⟨record, stored, .refl record⟩
    | tail _ step ih =>
      obtain ⟨tid, serves⟩ := step
      obtain ⟨middle, was, first⟩ := ih
      obtain ⟨next, now, second⟩ := serves.evolves orderId middle was
      exact ⟨next, now, first.trans second⟩
  intro record stored terminal
  obtain ⟨next, now, change⟩ := evolves record stored
  obtain ⟨state, phase, failureClass⟩ := change.terminal terminal
  exact ⟨next, now, state, phase, failureClass⟩

/-- Whatever is replayed and polled, an order's one call and its refusal exclude each other, and what is
terminal is final. -/
theorem order_executed_once {guards : Guards} {requests : ℕ → Request} {middle after : upiMachine.Config}
    (run : Run (unrestricted upiMachine) (serving guards requests) middle)
    (later : Run (unrestricted upiMachine) middle after) (orderId : String) :
    middle.world.OneCall orderId ∧ after.world.OneCall orderId ∧ middle.world.Final after.world orderId := by
  have checked := Protocol.sound (serving_checked guards requests) run
  have checkedAfter := Protocol.sound checked later
  have single : Single middle.world := checked.1
  have singleAfter : Single after.world := checkedAfter.1
  exact ⟨single.oneCall orderId, singleAfter.oneCall orderId,
    final_of_guaranteed (Protocol.guaranteed checked later) orderId⟩

/-! ## A replayed order -/

/-- An order of one dollar, twice notified and once polled. -/
def notifiedTwice : ℕ → Request
  | 0 | 1 => .verifiedFunding ⟨"order", .coinbaseV1, "pl_a", "quote", none, 100, 0, none⟩ "hash" false
  | _ => .status "order"

/-- Both notifications get as far as the right to execute; the first takes it and sends its call. -/
def sentOnce : List (ℕ × Choice) :=
  replicate 15 (0, payable) ++ replicate 15 (1, payable) ++ [(0, payable), (1, payable), (0, payable)]

/-- The call is accepted, and a poll sees the invoice paid. -/
def paidOnce : List (ℕ × Choice) :=
  replicate 2 (0, payable) ++
    replicate 5 (2, { payable with live := .live { payableInvoice with terminal := some .success } })

theorem order_executed_once_replayed : ∃ middle after,
    Run (unrestricted upiMachine) (serving noGuards notifiedTwice) middle ∧
      Run (unrestricted upiMachine) middle after ∧
      (middle.world.calls.length = 1 ∧ (after.world.fulfillments "order").map (·.state) = some .paid) ∧
      middle.world.OneCall "order" ∧ after.world.OneCall "order" ∧ middle.world.Final after.world "order" := by
  obtain ⟨middle, after, run, later, passed⟩ :=
    Config.exec_reaches_then (unrestricted upiMachine) (serving noGuards notifiedTwice) sentOnce paidOnce
      (fun middle after => middle.calls.length = 1 ∧ (after.fulfillments "order").map (·.state) = some .paid) rfl
  exact ⟨middle, after, run, later, of_decide_eq_true passed, order_executed_once run later "order"⟩

end MppRouter.Routes.Upi
