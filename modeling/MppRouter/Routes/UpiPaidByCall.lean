import MppRouter.Routes.UpiFlow

/-! # Whose payment a first-generation order is paid by

An order of the first generation is marked as being processed before the switch and the balance are looked at and
before its call is sent. A status check that meets it there takes whatever the provider says of the invoice for the
order's own payment, also when somebody else paid.
-/

namespace MppRouter.Routes.Upi.PaidByCall

open Concurrent Machine Mpp Typestate Function Option List

/-! ## What each request has looked at -/

/-- The world, with the record that each request loaded last. -/
structure Watched where
  world : World
  loaded : ℕ → Option UpiFulfillmentRecord := fun _ => none

def look (tid : ℕ) : (action : Action) → action.Answer → (ℕ → Option UpiFulfillmentRecord) →
    ℕ → Option UpiFulfillmentRecord
  | .record _ .load, found, loaded => update loaded tid found
  | _, _, loaded => loaded

/-- The machine of the orders, watched. -/
abbrev watchedMachine : Machine where
  Action := Action
  Answer := Action.Answer
  Choice := Choice
  World := Watched
  perform tid action choice watched :=
    let (answer, world) := perform tid action choice watched.world
    some (answer, { world, loaded := look tid action answer watched.loaded })

/-- Any requests at once, each served by a thread of its own. -/
def serving (guards : Guards) (requests : ℕ → Request) : watchedMachine.Config :=
  ⟨{ world := .fresh guards }, fun tid => (requests tid).serve⟩

/-- An executor call for the order has been sent. -/
def Called (world : World) (orderId : String) : Prop := ∃ call ∈ world.calls, call.orderId = orderId

instance (world : World) (orderId : String) : Decidable (Called world orderId) :=
  inferInstanceAs (Decidable (∃ call ∈ world.calls, call.orderId = orderId))

/-- A provider reports success to a status check of an order that is under way only after its call was sent. -/
def ownCall (tid : ℕ) (action : Action) (choice : Choice) (watched : Watched) : Bool :=
  match action with
  | .fetchLiveInvoice _ _ _ =>
    succeeded choice.live → (watched.loaded tid).all fun record => underWay record → Called watched.world record.orderId
  | _ => true

abbrev OwnCall : watchedMachine.Admits := fun tid action choice watched => ownCall tid action choice watched = true

/-! ## What a request knows -/

/-- The flow of the requests, in the watched machine. -/
def phases : Typestate watchedMachine := ⟨UpiPhase, anyGuards, UpiPhase.next⟩

/-- A first-generation record has no execution phase, and is paid only when its call was sent. -/
structure Honest (world : World) : Prop where
  unphased : ∀ orderId record, world.fulfillments orderId = some record → record.schemaVersion ≠ some 2 →
    record.phase = .notStarted
  called : ∀ orderId record, world.fulfillments orderId = some record → record.schemaVersion ≠ some 2 →
    record.state = .paid → Called world orderId

/-- Calls stay, and nobody looks for another. -/
def honesty : Protocol watchedMachine where
  Inv watched := Honest (Watched.world watched)
  Guar tid watched after := (∀ orderId, Called (Watched.world watched) orderId → Called (Watched.world after) orderId) ∧
    ∀ other, other ≠ tid → Watched.loaded after other = Watched.loaded watched other

def Knows (tid : ℕ) (phase : UpiPhase) (watched : Watched) : Prop :=
  watched.loaded tid = phase.loaded ∧ ∀ orderId, phase.seen = some orderId → Called watched.world orderId

theorem knows_stable (tid : ℕ) (phase : UpiPhase) : honesty.Stable tid (Knows tid phase) := by
  rintro other watched after distinct - - ⟨calls, loaded⟩ ⟨same, seen⟩
  constructor
  · rw [loaded tid (Ne.symm distinct), same]
  · exact fun orderId now => calls orderId (seen orderId now)

/-! ## What a step does to the records -/

section Steps

variable {world after : World} {orderId : String}

/-- A step that keeps the records and adds to the calls. -/
theorem Honest.same (honest : Honest world) (fulfillments : after.fulfillments = world.fulfillments)
    (calls : ∀ orderId, Called world orderId → Called after orderId) : Honest after where
  unphased id record stored := honest.unphased id record (fulfillments ▸ stored)
  called id record stored schema paid := calls id (honest.called id record (fulfillments ▸ stored) schema paid)

theorem Honest.store (honest : Honest world) {record : UpiFulfillmentRecord}
    (stored : after.fulfillments = update world.fulfillments orderId (some record)) (calls : after.calls = world.calls)
    (unphased : record.schemaVersion ≠ some 2 → record.phase = .notStarted)
    (called : record.schemaVersion ≠ some 2 → record.state = .paid → Called world orderId) : Honest after := by
  have still : ∀ id, Called world id → Called after id := by
    intro id sent
    unfold Called
    rwa [calls]
  constructor
  · intro id other found schema
    rw [stored] at found
    by_cases same : id = orderId
    · subst same
      rw [update_self] at found
      cases found
      exact unphased schema
    · rw [update_of_ne same] at found
      exact honest.unphased id other found schema
  · intro id other found schema paid
    rw [stored] at found
    by_cases same : id = orderId
    · subst same
      rw [update_self] at found
      cases found
      exact still id (called schema paid)
    · rw [update_of_ne same] at found
      exact still id (honest.called id other found schema paid)

/-- A guarded change of a first-generation record leaves its state and its phase. -/
theorem apply_first {record changed : UpiFulfillmentRecord} {change : V2Change} (schema : record.schemaVersion ≠ some 2)
    (unphased : record.phase = .notStarted) (applied : change.apply record = some changed) :
    changed.state = record.state ∧ changed.phase = record.phase := by
  have closed : record.isV2Open = false := by simp [UpiFulfillmentRecord.isV2Open, schema]
  have unsent : record.awaits = false := by simp [UpiFulfillmentRecord.awaits, unphased]
  cases change with
  | mark attemptId outcome =>
    have uncalled : record.executionPhase ≠ some .calling := by
      intro calling
      simp [UpiFulfillmentRecord.phase, calling] at unphased
    simp [V2Change.apply, uncalled] at applied
  | observe state =>
    simp only [V2Change.apply] at applied
    split_ifs at applied
    cases applied
    exact ⟨rfl, rfl⟩
  | _ => simp [V2Change.apply, closed, unsent] at applied

theorem apply_schema {record changed : UpiFulfillmentRecord} {change : V2Change}
    (applied : change.apply record = some changed) : changed.schemaVersion = record.schemaVersion := by
  cases change with
  | mark attemptId outcome =>
    simp only [V2Change.apply] at applied
    split_ifs at applied
    cases applied
    cases outcome <;> rfl
  | _ =>
    simp only [V2Change.apply] at applied
    split_ifs at applied
    cases applied
    rfl

/-- An operation that decides not to write leaves the records. -/
theorem Honest.unwritten (honest : Honest world) (stored : after.fulfillments =
    update world.fulfillments orderId (world.fulfillments orderId)) (calls : after.calls = world.calls) :
    Honest after := by
  rw [update_eq_self] at stored
  apply honest.same stored
  intro id sent
  unfold Called
  rwa [calls]

theorem record_calls (tid : ℕ) (op : RecordOp) (choice : Choice) :
    (perform tid (.record orderId op) choice world).2.calls = world.calls := by
  change (World.remember tid orderId world op _).calls = world.calls
  unfold World.remember
  split
  · rfl
  · rfl

/-- What an operation stores is what was there, or a record that is honest. -/
theorem decide_cases (honest : Honest world) {phase : UpiPhase} {op : RecordOp} (allowed : phase.allows (.record orderId op))
    (seen : ∀ id, phase.seen = some id → Called world id) (now : ℕ) :
    (op.decide now (world.fulfillments orderId)).after (world.fulfillments orderId) = world.fulfillments orderId ∨
      ∃ record, (op.decide now (world.fulfillments orderId)).after (world.fulfillments orderId) = some record ∧
        (record.schemaVersion ≠ some 2 → record.phase = .notStarted) ∧
        (record.schemaVersion ≠ some 2 → record.state = .paid → Called world orderId) := by
  cases found : world.fulfillments orderId with
  | none =>
    cases op with
    | create fresh =>
      obtain ⟨-, -, unsent, -, queued⟩ := allowed
      refine .inr ⟨fresh, rfl, fun _ => unsent, fun _ paid => ?_⟩
      rw [queued] at paid
      cases paid
    | _ => exact .inl rfl
  | some record =>
    have unphased := honest.unphased orderId record found
    have called := honest.called orderId record found
    cases op with
    | load => exact .inl rfl
    | create fresh => exact .inl rfl
    | transition state detail =>
      refine .inr ⟨_, rfl, unphased, fun schema paid => ?_⟩
      change (if record.state.terminal then record.state else state) = .paid at paid
      split_ifs at paid with terminal
      · exact called schema paid
      · exact seen orderId (allowed.2 paid)
    | noteState state => exact .inr ⟨_, rfl, unphased, called⟩
    | casV2 change =>
      cases applied : change.apply record with
      | none =>
        left
        simp [RecordOp.decide, casV2, applied]
      | some changed =>
        right
        refine ⟨{ changed with updatedAt := now }, by simp [RecordOp.decide, casV2, applied], fun schema => ?_,
          fun schema paid => ?_⟩
        · have schema : record.schemaVersion ≠ some 2 := apply_schema applied ▸ schema
          exact (apply_first schema (unphased schema) applied).2.trans (unphased schema)
        · have schema : record.schemaVersion ≠ some 2 := apply_schema applied ▸ schema
          exact called schema ((apply_first schema (unphased schema) applied).1.symm.trans paid)

/-- An operation on a record keeps the records honest, as long as only an order that was called is marked as paid. -/
theorem Honest.record (honest : Honest world) {phase : UpiPhase} {op : RecordOp} (allowed : phase.allows (.record orderId op))
    (seen : ∀ id, phase.seen = some id → Called world id) (tid : ℕ) (choice : Choice) :
    Honest (perform tid (.record orderId op) choice world).2 := by
  rcases decide_cases honest allowed seen choice.now with same | ⟨record, became, unphased, called⟩
  · have stored : (perform tid (.record orderId op) choice world).2.fulfillments =
        update world.fulfillments orderId (world.fulfillments orderId) :=
      congrArg (update world.fulfillments orderId) same
    exact honest.unwritten stored (record_calls tid op choice)
  · have stored : (perform tid (.record orderId op) choice world).2.fulfillments =
        update world.fulfillments orderId (some record) :=
      congrArg (update world.fulfillments orderId) became
    exact honest.store stored (record_calls tid op choice) unphased called

end Steps

/-! ## Requests keep it -/

/-- An action that neither loads a record nor asks the provider. -/
def blind : Action → Bool
  | .record _ .load | .fetchLiveInvoice _ _ _ => false
  | _ => true

theorem next_blind {action : Action} (unseeing : blind action = true) (phase : UpiPhase) (answer : action.Answer) :
    (phase.next action answer).loaded = phase.loaded ∧ (phase.next action answer).seen = phase.seen := by
  cases action with
  | record orderId op =>
    cases op with
    | load => cases unseeing
    | create fresh => cases answer <;> exact ⟨rfl, rfl⟩
    | casV2 change =>
      cases change with
      | mark attemptId outcome => cases outcome <;> exact ⟨rfl, rfl⟩
      | _ => exact ⟨rfl, rfl⟩
    | _ => exact ⟨rfl, rfl⟩
  | guard action =>
    cases action with
    | claimInvoice invoiceKey channel ref => cases ref <;> exact ⟨rfl, rfl⟩
    | releaseInvoice invoiceKey channel ref => cases channel <;> cases ref <;> exact ⟨rfl, rfl⟩
    | _ => exact ⟨rfl, rfl⟩
  | fetchLiveInvoice provider invoiceKey payUrl => cases unseeing
  | _ => exact ⟨rfl, rfl⟩

theorem Knows.blind {tid : ℕ} {phase : UpiPhase} {watched : Watched} {world : World} (knows : Knows tid phase watched)
    {action : Action} (unseeing : PaidByCall.blind action = true) (answer : action.Answer)
    (calls : ∀ orderId, Called watched.world orderId → Called world orderId) :
    Knows tid (phase.next action answer) { watched with world } := by
  obtain ⟨loaded, seen⟩ := next_blind unseeing phase answer
  exact ⟨knows.1.trans loaded.symm, fun orderId paid => calls orderId (knows.2 orderId (seen.symm.trans paid))⟩

theorem called_answer {tid : ℕ} {sent : String} {reply : UpiReply} {world after : World}
    (answered : after.calls = world.calls.map (UpiCall.answer tid sent reply)) (orderId : String)
    (called : Called world orderId) : Called after orderId := by
  obtain ⟨call, member, rfl⟩ := called
  refine ⟨call.answer tid sent reply, ?_, ?_⟩
  · rw [answered]
    exact mem_map_of_mem member
  · unfold UpiCall.answer
    split_ifs <;> rfl

theorem keeps (tid : ℕ) : phases.Keeps honesty OwnCall tid (Knows tid) where
  stable := knows_stable tid
  step phase action allowed watched honest knows choice answer after admitted performed := by
    obtain ⟨rfl, rfl⟩ := Prod.mk.inj (some.inj performed)
    have plain (unseeing : blind action = true) (calls : ∀ orderId, Called watched.world orderId →
        Called (perform tid action choice watched.world).2 orderId) :
        honesty.Guar tid watched { watched with world := (perform tid action choice watched.world).2 } ∧
          Knows tid (phases.next phase action (perform tid action choice watched.world).1)
            { watched with world := (perform tid action choice watched.world).2 } :=
      ⟨⟨calls, fun _ _ => rfl⟩, knows.blind unseeing _ calls⟩
    cases action with
    | record orderId op =>
      have calls : ∀ id, Called watched.world id → Called (perform tid (.record orderId op) choice watched.world).2 id := by
        intro id sent
        unfold Called
        rwa [record_calls]
      have allowed : phase.allows (.record orderId op) := allowed.resolve_right (by simp)
      refine ⟨Honest.record honest allowed knows.2 tid choice, ⟨calls, ?_⟩, ?_⟩
      · intro other foreign
        cases op with
        | load => exact update_of_ne foreign ..
        | _ => rfl
      · cases op with
        | load => exact ⟨update_self .., nofun⟩
        | _ => exact (plain rfl calls).2
    | fetchLiveInvoice provider invoiceKey payUrl =>
      refine ⟨honest, ⟨fun _ sent => sent, fun _ _ => rfl⟩, knows.1, ?_⟩
      intro orderId seen
      change (if succeeded choice.live then (phase.loaded.filter underWay).map UpiFulfillmentRecord.orderId else none) =
        some orderId at seen
      split_ifs at seen with paid
      obtain ⟨record, looked, rfl⟩ := map_eq_some_iff.mp seen
      obtain ⟨loaded, running⟩ := filter_eq_some_iff.mp looked
      have own : ownCall tid (.fetchLiveInvoice provider invoiceKey payUrl) choice watched = true := admitted
      rw [← knows.1] at loaded
      simp only [ownCall, paid, loaded, all_some, running, decide_eq_true_eq, forall_const] at own
      exact own
    | send orderId invoiceKey expected =>
      have calls : ∀ id, Called watched.world id →
          Called { watched.world with calls := { tid, orderId, invoiceKey, expected } :: watched.world.calls } id := by
        rintro id ⟨call, member, same⟩
        exact ⟨call, mem_cons_of_mem _ member, same⟩
      exact ⟨honest.same rfl calls, plain rfl calls⟩
    | receiveAgent orderId => exact ⟨honest.same rfl (called_answer rfl), plain rfl (called_answer rfl)⟩
    | receiveStripe orderId => exact ⟨honest.same rfl (called_answer rfl), plain rfl (called_answer rfl)⟩
    | _ => exact ⟨honest.same rfl fun _ sent => sent, plain rfl fun _ sent => sent⟩

/-! ## Runs -/

theorem honest_fresh (guards : Guards) : Honest (.fresh guards) where
  unphased _ _ stored := nomatch stored
  called _ _ stored := nomatch stored

/-- As long as a provider shows an order that is under way as paid only after the order's call was sent, an order of the
first generation that is marked as paid was called. -/
theorem paid_after_call {guards : Guards} {requests : ℕ → Request} {config : watchedMachine.Config}
    (run : Run OwnCall (serving guards requests) config) (orderId : String) (record : UpiFulfillmentRecord)
    (stored : config.world.world.fulfillments orderId = some record) (first : record.schemaVersion ≠ some 2)
    (paid : record.state = .paid) : Called config.world.world orderId := by
  have start : honesty.Inv (serving guards requests).world := honest_fresh guards
  have knows : ∀ tid, Knows tid (.start (requests tid)) (serving guards requests).world :=
    fun _ => ⟨rfl, fun _ seen => nomatch seen⟩
  have honest : honesty.Inv config.world :=
    Typestate.sound_each keeps _ start knows (fun tid => follows_watched (requests tid).serve_relaxed) run
  exact Honest.called honest orderId record stored first paid

/-! ## A switch in between -/

/-- An order of one dollar is notified and polled. -/
def notifiedAndPolled : ℕ → Request
  | 0 => .verifiedPayIn ⟨"order", .coinbaseV1, "pl_a", "quote", 100⟩ "hash" false
  | _ => .status "order"

def settled : Choice := { payable with live := .live { payableInvoice with terminal := some .success } }

/-- The order is created, claimed and marked as being processed. -/
def begun : List (ℕ × Choice) := replicate 10 (0, payable)

/-- The call is sent and accepted, and the look behind it sees the invoice paid. -/
theorem paid_after_call_once : ∃ config, Run OwnCall (serving noGuards notifiedAndPolled) config ∧
    ∃ record, config.world.world.fulfillments "order" = some record ∧ record.state = .paid ∧
      Called config.world.world "order" := by
  obtain ⟨config, run, paid⟩ := Config.exec_reaches OwnCall (serving noGuards notifiedAndPolled)
    (begun ++ replicate 10 (0, settled))
    (fun watched => (watched.world.fulfillments "order").any fun record => record.schemaVersion ≠ some 2 ∧ record.state = .paid)
    (by decide +kernel)
  obtain ⟨record, stored, paid⟩ := any_eq_true _ _ |>.mp paid
  obtain ⟨first, paid⟩ := of_decide_eq_true paid
  exact ⟨config, run, record, stored, paid, paid_after_call run "order" record stored first paid⟩

/-- Somebody else pays the invoice while the order is marked as being processed: a poll marks the order as paid, and
then the switch refuses it without a call. -/
theorem paid_without_call : ∃ config, Run (unrestricted watchedMachine) (serving noGuards notifiedAndPolled) config ∧
    ∃ record, config.world.world.fulfillments "order" = some record ∧ record.schemaVersion ≠ some 2 ∧
      record.state = .paid ∧ ¬ Called config.world.world "order" := by
  obtain ⟨config, run, paid⟩ := Config.exec_reaches (unrestricted watchedMachine) (serving noGuards notifiedAndPolled)
    (begun ++ replicate 5 (1, settled) ++
      [(0, settled), (0, { settled with paused := true }), (0, settled), (0, settled)])
    (fun watched => (watched.world.fulfillments "order").any (fun record => record.schemaVersion ≠ some 2 ∧
      record.state = .paid ∧ ¬ Called watched.world "order")) (by decide +kernel)
  obtain ⟨record, stored, paid⟩ := any_eq_true _ _ |>.mp paid
  obtain ⟨first, paid, uncalled⟩ := of_decide_eq_true paid
  exact ⟨config, run, record, stored, first, paid, uncalled⟩

end MppRouter.Routes.Upi.PaidByCall
