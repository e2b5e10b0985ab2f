import MppRouter.Routes.StripeSpec

/-! # One pay-invoice call in flight per invoice

A record carries no owner: `provider_paying` says that some handler claimed it. While every handler
gives back only its own claim, the claim that is in force keeps all others out until its call has
returned. A handler whose give-back took effect and then threw gives the claim back once more, and may
so open the record under another handler.
-/

namespace MppRouter.Routes.Stripe

open Concurrent Machine Mpp Typestate Option

/-- A claim is given back only when no other attempt's claim is in force. -/
def ownClaim (tid : ℕ) (action : Action) (world : World) : Bool :=
  match action with
  | .record invoiceKey (.release _ _ _ _ _) | .record invoiceKey (.finalize _ _ _) =>
    (world.history.holder invoiceKey).all fun id => world.history.current tid invoiceKey = some id
  | _ => true

abbrev OwnClaim : stripeMachine.Admits := fun tid action _ world => ownClaim tid action world = true

/-- An attempt that claimed its record and was not answered yet. -/
def World.Pending (world : World) (id : ℕ) (attempt : Attempt) : Prop :=
  world.history.attempts.lookup id = some attempt ∧
    (world.history.holder attempt.invoiceKey = some id ∨ attempt.call = .outstanding)

/-- No two calls for one invoice are in flight, and nobody can claim under a pending attempt. -/
structure World.SingleFlight (world : World) : Prop where
  one : ∀ id other attempt rival, world.history.attempts.lookup id = some attempt →
    world.history.attempts.lookup other = some rival → attempt.invoiceKey = rival.invoiceKey →
    attempt.call = .outstanding → rival.call = .outstanding → id = other
  exclusive : ∀ id attempt, world.Pending id attempt → ∀ input now invoiceAtomic,
    ((RecordOp.claim input now).decide attempt.invoiceKey (world.records attempt.invoiceKey)).result ≠
      .claimed invoiceAtomic

/-! ## The invariant -/

structure Flight (world : World) : Prop where
  numbered : world.history.Numbered
  held : ∀ invoiceKey id, world.history.holder invoiceKey = some id →
    ∃ record, world.records invoiceKey = some record ∧ record.status.guarded = true
  outstanding : ∀ id attempt, world.history.attempts.lookup id = some attempt → attempt.call = .outstanding →
    world.history.holder attempt.invoiceKey = some id

theorem claim_refused {record : StripeFulfillmentRecord} (guarded : record.status.guarded = true)
    (input : StripeWebhookInput) (now : ℕ) (invoiceKey : String) (invoiceAtomic : ℤ) :
    ((RecordOp.claim input now).decide invoiceKey (some record)).result ≠ .claimed invoiceAtomic := by
  obtain ⟨next, claim, decided, -, -, outcome⟩ := claimStripeRecord_cases input now record
  have result : ((RecordOp.claim input now).decide invoiceKey (some record)).result = claim := by
    simp only [RecordOp.decide, updateStripeRecord, getD_some, decided, Decision.result]
  rw [result]
  rcases outcome with ⟨_, _, _, claimable, _⟩ | ⟨unclaimed, _⟩
  · rw [guarded_not_claimable guarded] at claimable
    cases claimable
  · exact unclaimed invoiceAtomic

theorem Flight.singleFlight {world : World} (flight : Flight world) : world.SingleFlight where
  one := by
    intro id other attempt rival found foundRival same calling callingRival
    have mine := flight.outstanding id attempt found calling
    have theirs := flight.outstanding other rival foundRival callingRival
    rw [same, theirs] at mine
    exact (some.inj mine).symm
  exclusive := by
    rintro id attempt ⟨found, pending⟩ input now invoiceAtomic
    have holder : world.history.holder attempt.invoiceKey = some id := by
      rcases pending with holder | calling
      · exact holder
      · exact flight.outstanding id attempt found calling
    obtain ⟨record, stored, guarded⟩ := flight.held _ _ holder
    rw [stored]
    exact claim_refused guarded input now _ invoiceAtomic

/-! ## What a handler may rely on -/

/-- A handler keeps its hands off the attempts and the claims of others. -/
structure Minds (tid : ℕ) (before after : World) : Prop where
  current : ∀ other, other ≠ tid → after.history.current other = before.history.current other
  holder : ∀ invoiceKey id attempt, before.history.holder invoiceKey = some id →
    before.history.attempts.lookup id = some attempt → attempt.tid ≠ tid →
    after.history.holder invoiceKey = some id
  calls : ∀ id attempt, after.history.attempts.lookup id = some attempt → attempt.tid ≠ tid →
    attempt.call = .outstanding →
    ∃ earlier, before.history.attempts.lookup id = some earlier ∧ earlier.tid = attempt.tid ∧
      earlier.call = .outstanding

def singleFlight : Protocol stripeMachine := ⟨Flight, Minds⟩

/-- No call of this request is out, except that of the given attempt. -/
def World.OnlyCalls (world : World) (tid : ℕ) (except_ : Option ℕ) : Prop :=
  ∀ id attempt, world.history.attempts.lookup id = some attempt → attempt.tid = tid →
    attempt.call = .outstanding → except_ = some id

/-- The claim of this request's attempt is in force. -/
def World.Holds (world : World) (tid : ℕ) (invoiceKey : String) : Prop :=
  ∃ id, world.history.current tid invoiceKey = some id ∧ world.history.holder invoiceKey = some id

def FlightKnows (tid : ℕ) (phase : Phase) (world : World) : Prop :=
  match phase.settlement with
  | .settling invoiceKey _ _ true _ => world.OnlyCalls tid none ∧ world.Holds tid invoiceKey
  | .calling invoiceKey => world.OnlyCalls tid (world.history.current tid invoiceKey) ∧ world.Holds tid invoiceKey
  | .idle | .settling _ _ _ false _ | .answered _ _ => world.OnlyCalls tid none

section Stable

variable {tid other : ℕ} {world after : World}

theorem OnlyCalls.kept {except_ : Option ℕ} (distinct : other ≠ tid) (minds : Minds other world after)
    (only : world.OnlyCalls tid except_) : after.OnlyCalls tid except_ := by
  intro id attempt found mine calling
  obtain ⟨earlier, was, sameTid, wasCalling⟩ := minds.calls id attempt found (by omega) calling
  exact only id earlier was (by omega) wasCalling

theorem Holds.kept {invoiceKey : String} (distinct : other ≠ tid) (flight : Flight world)
    (minds : Minds other world after) (holds : world.Holds tid invoiceKey) : after.Holds tid invoiceKey := by
  obtain ⟨id, current, holder⟩ := holds
  obtain ⟨attempt, found, mine, _⟩ := flight.numbered.current _ _ _ current
  exact ⟨id, (minds.current tid (Ne.symm distinct)) ▸ current, minds.holder _ _ _ holder found (by omega)⟩

theorem FlightKnows.stable (phase : Phase) : singleFlight.Stable tid (FlightKnows tid phase) := by
  intro other world after distinct flight _ minds knows
  unfold FlightKnows at knows ⊢
  split at knows
  · exact ⟨OnlyCalls.kept distinct minds knows.1, Holds.kept distinct flight minds knows.2⟩
  · rw [minds.current tid (Ne.symm distinct)]
    exact ⟨OnlyCalls.kept distinct minds knows.1, Holds.kept distinct flight minds knows.2⟩
  all_goals exact OnlyCalls.kept distinct minds knows

end Stable

/-! ## Steps that leave the flight alone -/

/-- An attempt, as far as the flight goes. -/
def Attempt.flight (attempt : Attempt) : ℕ × String × Bool :=
  (attempt.tid, attempt.invoiceKey, attempt.call = .outstanding)

/-- Claims, attempts and guarded records stay what they are. -/
structure SameFlight (before after : World) : Prop where
  holder : after.history.holder = before.history.holder
  current : after.history.current = before.history.current
  started : after.history.started = before.history.started
  attempts : ∀ id, (after.history.attempts.lookup id).map Attempt.flight =
    (before.history.attempts.lookup id).map Attempt.flight
  records : ∀ invoiceKey record, before.records invoiceKey = some record → record.status.guarded = true →
    ∃ next, after.records invoiceKey = some next ∧ next.status.guarded = true

namespace SameFlight

variable {tid : ℕ} {before after : World}

section Same

variable (same : SameFlight before after)

include same

theorem back {id : ℕ} {attempt : Attempt} (found : after.history.attempts.lookup id = some attempt) :
    ∃ earlier, before.history.attempts.lookup id = some earlier ∧ earlier.tid = attempt.tid ∧
      earlier.invoiceKey = attempt.invoiceKey ∧ (earlier.call = .outstanding ↔ attempt.call = .outstanding) := by
  have mapped := same.attempts id
  rw [found] at mapped
  cases was : before.history.attempts.lookup id with
  | none => simp [was] at mapped
  | some earlier =>
    simp only [was, map_some, some.injEq, Attempt.flight, Prod.mk.injEq, decide_eq_decide] at mapped
    exact ⟨earlier, rfl, mapped.1.symm, mapped.2.1.symm, mapped.2.2.symm⟩

theorem flight (flight : Flight before) : Flight after where
  numbered := by
    refine flight.numbered.congr same.current same.started fun id => ?_
    have mapped := congrArg (Option.map fun flight : ℕ × String × Bool => (flight.1, flight.2.1)) (same.attempts id)
    rw [map_map, map_map] at mapped
    exact mapped
  held := by
    intro invoiceKey id holder
    rw [same.holder] at holder
    obtain ⟨record, stored, guarded⟩ := flight.held _ _ holder
    exact same.records _ _ stored guarded
  outstanding := by
    intro id attempt found calling
    obtain ⟨earlier, was, _, sameKey, sameCall⟩ := same.back found
    rw [same.holder, ← sameKey]
    exact flight.outstanding _ _ was (sameCall.mpr calling)

theorem minds : Minds tid before after where
  current := fun other _ => by rw [same.current]
  holder := fun _ _ _ holder _ _ => by rwa [same.holder]
  calls := by
    intro id attempt found _ calling
    obtain ⟨earlier, was, sameTid, _, sameCall⟩ := same.back found
    exact ⟨earlier, was, sameTid, sameCall.mpr calling⟩

theorem only {except_ : Option ℕ} (only : before.OnlyCalls tid except_) : after.OnlyCalls tid except_ := by
  intro id attempt found mine calling
  obtain ⟨earlier, was, sameTid, _, sameCall⟩ := same.back found
  exact only id earlier was (sameTid.trans mine) (sameCall.mpr calling)

theorem knows {phase next : Phase} (settlement : next.settlement = phase.settlement)
    (knows : FlightKnows tid phase before) : FlightKnows tid next after := by
  unfold FlightKnows at knows ⊢
  rw [settlement]
  split at knows
  · obtain ⟨only, id, current, holder⟩ := knows
    exact ⟨same.only only, id, same.current ▸ current, same.holder ▸ holder⟩
  · obtain ⟨only, id, current, holder⟩ := knows
    rw [same.current]
    exact ⟨same.only only, id, same.current ▸ current, same.holder ▸ holder⟩
  all_goals exact same.only knows

end Same

theorem refl (world : World) : SameFlight world world :=
  ⟨rfl, rfl, rfl, fun _ => rfl, fun _ record stored guarded => ⟨record, stored, guarded⟩⟩

theorem modify {id : Option ℕ} {change : Attempt → Attempt} (guards : Guards)
    (plain : ∀ attempt, (change attempt).flight = attempt.flight) :
    SameFlight before { before with guards, history := before.history.modify id change } where
  holder := History.modify_holder
  current := History.modify_current
  started := History.modify_started
  attempts := by
    intro other
    simp only [History.lookup_modify]
    split_ifs
    · simp only [map_map]
      congr 1
      funext attempt
      exact plain attempt
    · rfl
  records := fun _ record stored guarded => ⟨record, stored, guarded⟩

end SameFlight

/-! ## Steps -/

section Steps

variable {tid : ℕ} {world after : World} {invoiceKey : String} {phase : Phase}

theorem passive_same {op : RecordOp} (passive : op.passive = true) (world : World) :
    SameFlight world (op.perform tid invoiceKey world).2 := by
  rcases op.passive_perform world passive with same | ⟨next, stored, moves, _⟩
  · rw [same]
    exact .refl world
  · rw [stored]
    refine ⟨rfl, rfl, rfl, fun _ => rfl, fun other record was guarded => ?_⟩
    by_cases same : other = invoiceKey
    · subst same
      rw [World.recordOf_eq was] at moves
      exact ⟨next, World.store_self, moves.guarded guarded⟩
    · exact ⟨record, (World.store_ne same).trans was, guarded⟩

/-- Re-opening needs an ambiguous record, which nobody holds. -/
theorem reopen_same (now : ℕ) (plan : RetryPlan) (world : World) :
    SameFlight world ((RecordOp.reopen now plan).perform tid invoiceKey world).2 := by
  rcases RecordOp.reopen_perform world now plan with refused | ⟨record, next, was, ambiguous, -, -, -, -, reopened⟩
  · rw [refused]
    exact .refl world
  · rw [reopened]
    have disproves : ∀ attempt : Attempt,
        ({ attempt with call := attempt.call.disprove } : Attempt).flight = attempt.flight := by
      intro attempt
      cases called : attempt.call <;> simp [Attempt.flight, CallState.disprove, called]
    have modified := @SameFlight.modify world (world.history.ambiguous invoiceKey) _ world.guards disproves
    refine ⟨modified.holder, modified.current, modified.started, modified.attempts, fun other stored found guarded => ?_⟩
    by_cases same : other = invoiceKey
    · subst same
      rw [was] at found
      cases found
      exact absurd ambiguous (guarded_not_ambiguous guarded)
    · exact ⟨stored, (World.store_ne same).trans found, guarded⟩

theorem Flight.unheld (flight : Flight world) (claimable : (world.recordOf invoiceKey).status.claimable = true) :
    world.history.holder invoiceKey = none := by
  cases holder : world.history.holder invoiceKey with
  | none => rfl
  | some id =>
    obtain ⟨record, stored, guarded⟩ := flight.held _ _ holder
    rw [World.recordOf_eq stored, guarded_not_claimable guarded] at claimable
    cases claimable

/-- A claim that is refused leaves the flight alone. -/
theorem unclaimed_same {next : StripeFulfillmentRecord}
    (status : next.status = (world.recordOf invoiceKey).status ∨
      (world.recordOf invoiceKey).status.claimable = true ∧ next.status = .payinSeen ∨
      (world.recordOf invoiceKey).status.claimable = true ∧ next.status = .manualReview) :
    SameFlight world (world.store invoiceKey next) := by
  refine ⟨rfl, rfl, rfl, fun _ => rfl, fun other record was guarded => ?_⟩
  by_cases same : other = invoiceKey
  · subst same
    rw [World.recordOf_eq was, guarded_not_claimable guarded] at status
    simp only [Bool.false_eq_true, false_and, or_false] at status
    exact ⟨next, World.store_self, status ▸ guarded⟩
  · exact ⟨record, (World.store_ne same).trans was, guarded⟩

/-- The world after a claim: a new attempt is in force. -/
theorem claimed_step (flight : Flight world) (only : world.OnlyCalls tid none)
    (claimable : (world.recordOf invoiceKey).status.claimable = true) {next : StripeFulfillmentRecord}
    (paying : next.status = .providerPaying) (amount : ℤ) (day : ℕ)
    (became : after = { world.store invoiceKey next with history := world.history.start { tid, invoiceKey, amount, day } }) :
    Flight after ∧ Minds tid world after ∧ after.OnlyCalls tid none ∧ after.Holds tid invoiceKey := by
  have unheld := flight.unheld claimable
  have history : after.history = world.history.start { tid, invoiceKey, amount, day } := by rw [became]
  have found : ∀ id attempt, after.history.attempts.lookup id = some attempt →
      attempt = { tid, invoiceKey, amount, day } ∨ world.history.attempts.lookup id = some attempt := by
    intro id attempt found
    rw [history, History.lookup_start] at found
    split_ifs at found
    · exact .inl (some.inj found).symm
    · exact .inr found
  have holder : ∀ other, after.history.holder other =
      if other = invoiceKey then some world.history.started else world.history.holder other := by
    intro other
    rw [history, History.start_holder]
  have current : ∀ other key, after.history.current other key =
      if other = tid ∧ key = invoiceKey then some world.history.started else world.history.current other key := by
    intro other key
    rw [history, History.start_current]
  refine ⟨⟨history ▸ flight.numbered.start _, ?_, ?_⟩, ⟨?_, ?_, ?_⟩, ?_, ?_⟩
  · intro other id held
    rw [holder] at held
    split_ifs at held with same
    · subst same
      refine ⟨next, by rw [became]; exact World.store_self, ?_⟩
      rw [paying]
      rfl
    · obtain ⟨record, was, guarded⟩ := flight.held _ _ held
      exact ⟨record, by rw [became]; exact (World.store_ne same).trans was, guarded⟩
  · intro id attempt now calling
    rcases found id attempt now with rfl | was
    · cases calling
    · have mine := flight.outstanding _ _ was calling
      rw [holder]
      split_ifs with same
      · rw [same, unheld] at mine
        cases mine
      · exact mine
  · intro other distinct
    funext key
    rw [current, if_neg (fun own => distinct own.1)]
  · intro other id attempt held _ _
    rw [holder]
    split_ifs with same
    · rw [same, unheld] at held
      cases held
    · exact held
  · intro id attempt now theirs calling
    rcases found id attempt now with rfl | was
    · exact absurd rfl theirs
    · exact ⟨attempt, was, rfl, calling⟩
  · intro id attempt now mine calling
    rcases found id attempt now with rfl | was
    · cases calling
    · exact only id attempt was mine calling
  · exact ⟨world.history.started, by rw [current, if_pos ⟨rfl, rfl⟩], by rw [holder, if_pos rfl]⟩

/-- A handler gives its own claim back. -/
theorem giveBack_step (flight : Flight world) (only : world.OnlyCalls tid none)
    (own : ∀ id, world.history.holder invoiceKey = some id → world.history.current tid invoiceKey = some id)
    (holder : after.history.holder = (world.history.giveBack tid invoiceKey).holder)
    (current : after.history.current = world.history.current) (started : after.history.started = world.history.started)
    (attempts : after.history.attempts = world.history.attempts)
    (records : ∀ other, other ≠ invoiceKey → after.records other = world.records other) :
    Flight after ∧ Minds tid world after ∧ after.OnlyCalls tid none := by
  have gaveBack : ∀ other, after.history.holder other =
      if other = invoiceKey then none else world.history.holder other := by
    intro other
    rw [holder, History.giveBack]
    cases held : world.history.holder invoiceKey with
    | none =>
      split_ifs with mine same same
      · simp [same]
      · simp [Function.update_of_ne same]
      · rw [same, held]
      · rfl
    | some id =>
      rw [own id held, if_pos rfl]
      exact Function.update_apply ..
  refine ⟨⟨⟨?_, ?_⟩, ?_, ?_⟩, ⟨?_, ?_, ?_⟩, ?_⟩
  · rw [started, attempts]
    exact flight.numbered.fresh
  · rw [current, attempts]
    exact flight.numbered.current
  · intro other id held
    rw [gaveBack] at held
    split_ifs at held with same
    rw [records other same]
    exact flight.held _ _ held
  · intro id attempt found calling
    rw [attempts] at found
    have held := flight.outstanding _ _ found calling
    rw [gaveBack]
    split_ifs with same
    · rw [same] at held
      obtain ⟨mine, foundMine, myTid, _⟩ := flight.numbered.current _ _ _ (own _ held)
      rw [found] at foundMine
      cases foundMine
      exact nomatch only id attempt found myTid calling
    · exact held
  · intro other _
    rw [current]
  · intro other id attempt held found theirs
    rw [gaveBack]
    split_ifs with same
    · rw [same] at held
      obtain ⟨mine, foundMine, myTid, _⟩ := flight.numbered.current _ _ _ (own _ held)
      rw [found] at foundMine
      cases foundMine
      exact absurd myTid theirs
    · exact held
  · intro id attempt found _ calling
    rw [attempts] at found
    exact ⟨attempt, found, rfl, calling⟩
  · intro id attempt found mine calling
    rw [attempts] at found
    exact only id attempt found mine calling

/-- The state of a request's own call changes, under its claim. -/
theorem call_step (flight : Flight world) {id : ℕ} (mine : world.history.current tid invoiceKey = some id)
    (held : world.history.holder invoiceKey = some id) (call : CallState)
    (history : ∃ trace, after.history = { world.history.modify (some id) fun attempt => { attempt with call } with trace })
    (records : after.records = world.records) :
    Flight after ∧ Minds tid world after ∧
      (world.OnlyCalls tid (some id) → after.OnlyCalls tid (if call = .outstanding then some id else none)) := by
  obtain ⟨trace, history⟩ := history
  obtain ⟨own, foundOwn, ownTid, ownKey⟩ := flight.numbered.current _ _ _ mine
  have current : after.history.current = world.history.current := by rw [history]; exact History.modify_current
  have holder : after.history.holder = world.history.holder := by rw [history]; exact History.modify_holder
  have started : after.history.started = world.history.started := by rw [history]; exact History.modify_started
  have lookup : ∀ other, after.history.attempts.lookup other = if some id = some other then
      (world.history.attempts.lookup other).map (fun attempt => { attempt with call })
      else world.history.attempts.lookup other := by
    intro other
    rw [history]
    exact History.lookup_modify other
  have back : ∀ other attempt, after.history.attempts.lookup other = some attempt →
      other = id ∧ attempt = { own with call } ∨ other ≠ id ∧ world.history.attempts.lookup other = some attempt := by
    intro other attempt found
    rw [lookup] at found
    split_ifs at found with same
    · cases same
      rw [foundOwn] at found
      exact .inl ⟨rfl, (some.inj found).symm⟩
    · exact .inr ⟨fun same' => same (congrArg some same'.symm), found⟩
  have numbered : after.history.Numbered := by
    refine flight.numbered.congr current started fun other => ?_
    rw [lookup]
    split_ifs
    · simp only [map_map]
      rfl
    · rfl
  refine ⟨⟨numbered, ?_, ?_⟩, ⟨?_, ?_, ?_⟩, ?_⟩
  · rw [holder, records]
    exact flight.held
  · intro other attempt now calling
    rw [holder]
    rcases back other attempt now with ⟨rfl, rfl⟩ | ⟨_, was⟩
    · rw [ownKey]
      exact held
    · exact flight.outstanding _ _ was calling
  · intro other _
    rw [current]
  · intro key other attempt was _ _
    rwa [holder]
  · intro other attempt now theirs calling
    rcases back other attempt now with ⟨_, rfl⟩ | ⟨_, was⟩
    · exact absurd ownTid theirs
    · exact ⟨attempt, was, rfl, calling⟩
  · intro only other attempt now ours calling
    rcases back other attempt now with ⟨rfl, rfl⟩ | ⟨distinct, was⟩
    · rw [if_pos (show call = .outstanding from calling)]
    · have same := only other attempt was ours calling
      exact absurd (some.inj same).symm distinct

/-- No call of a request is out in a phase without one. -/
theorem FlightKnows.only (free : phase.Free) (knows : FlightKnows tid phase world) : world.OnlyCalls tid none := by
  unfold FlightKnows at knows
  split at knows
  · exact knows.1
  next invoiceKey calling => exact absurd calling (free invoiceKey)
  all_goals exact knows

theorem Settlement.Before.free {settlement : Settlement} (before : settlement.Before invoiceKey) :
    ∀ other, settlement ≠ .calling other := by
  obtain ⟨now, invoiceAtomic, holding, reserved, rfl⟩ := before
  exact nofun

theorem Settlement.After.free {settlement : Settlement} (after : settlement.After invoiceKey) :
    ∀ other, settlement ≠ .calling other := by
  obtain ⟨refused, rfl⟩ := after
  exact nofun

/-- Once the claim is given back, or may be, a request knows only that no call of its is out. -/
theorem FlightKnows.yield (free : phase.Free) (only : world.OnlyCalls tid none) :
    FlightKnows tid { phase with settlement := phase.settlement.yield } world := by
  unfold FlightKnows
  cases same : phase.settlement with
  | idle => exact only
  | settling invoiceKey now invoiceAtomic holding reserved => exact only
  | calling invoiceKey => exact absurd same (free invoiceKey)
  | answered invoiceKey refused => exact only

/-- A step that leaves the flight alone keeps whatever phase it leads to, if that is the same settlement. -/
theorem SameFlight.step (same : SameFlight world after) (flight : Flight world) (knows : FlightKnows tid phase world)
    {next : Phase} (settlement : next.settlement = phase.settlement) :
    Flight after ∧ Minds tid world after ∧ FlightKnows tid next after :=
  ⟨same.flight flight, same.minds, same.knows settlement knows⟩

/-- Who gives a claim back, when it is in force. -/
theorem OwnClaim.own {op : RecordOp} {choice : Choice} (own : OwnClaim tid (.record invoiceKey op) choice world)
    (gives : op.givesBack = true) (id : ℕ) (held : world.history.holder invoiceKey = some id) :
    world.history.current tid invoiceKey = some id := by
  cases op with
  | release | finalize =>
    simp only [OwnClaim, ownClaim, held, all_some, decide_eq_true_eq] at own
    exact own
  | _ => cases gives

theorem record_flight {op : RecordOp} (allowed : phase.allows (.record invoiceKey op)) (flight : Flight world)
    (knows : FlightKnows tid phase world) {choice : Choice}
    (own : OwnClaim tid (.record invoiceKey op) choice world) {answer : Option op.Answer}
    (performed : choice.fault.apply (op.perform tid invoiceKey) world = (answer, after)) :
    Flight after ∧ Minds tid world after ∧ FlightKnows tid (phase.next (.record invoiceKey op) answer) after := by
  have effect := fault_cases performed
  have passive (isPassive : op.passive = true) : SameFlight world after := by
    rcases effect with ⟨_, rfl⟩ | ⟨_, rfl⟩
    · exact .refl _
    · exact passive_same isPassive world
  cases op with
  | load | seed | stampCheck | recordCheckError | recordCheck | resolve => exact (passive rfl).step flight knows rfl
  | inspect now source => exact (passive rfl).step flight knows rfl
  | reopen now plan =>
    rcases effect with ⟨_, rfl⟩ | ⟨_, rfl⟩
    · exact (SameFlight.refl _).step flight knows rfl
    · exact (reopen_same now plan world).step flight knows rfl
  | claim input now =>
    have only := knows.only allowed
    rcases effect with ⟨rfl, rfl⟩ | ⟨answered, rfl⟩
    · exact ⟨flight, (SameFlight.refl _).minds, only⟩
    · obtain ⟨next, -, -, outcome⟩ := @RecordOp.claim_perform tid invoiceKey world input now
      rcases outcome with ⟨invoiceAtomic, -, claimable, paying, claimed⟩ | ⟨claim, unclaimed, status, refused⟩
      · obtain ⟨flight, minds, only, holds⟩ :=
          claimed_step flight only claimable paying invoiceAtomic (now / dayMs) (congrArg Prod.snd claimed)
        refine ⟨flight, minds, ?_⟩
        rcases answered with rfl | rfl
        · exact only
        · rw [claimed] at only holds ⊢
          exact ⟨only, holds⟩
      · have same : SameFlight world ((RecordOp.claim input now).perform tid invoiceKey world).2 := by
          rw [refused]
          exact unclaimed_same status
        refine ⟨same.flight flight, same.minds, ?_⟩
        have stillOnly := same.only only
        rcases answered with rfl | rfl
        · exact stillOnly
        · rw [refused] at stillOnly ⊢
          cases claim with
          | claimed invoiceAtomic => exact absurd rfl (unclaimed invoiceAtomic)
          | _ => exact stillOnly
  | release now releaseTo balance kind detail =>
    have free : phase.Free := allowed.1.free
    have only := knows.only free
    rcases effect with ⟨_, rfl⟩ | ⟨_, rfl⟩
    · exact ⟨flight, (SameFlight.refl _).minds, FlightKnows.yield free only⟩
    · obtain ⟨next, -, -, -, released⟩ :=
        @RecordOp.release_perform tid invoiceKey world now releaseTo balance kind detail allowed.2.2
      rw [released]
      obtain ⟨flight, minds, only⟩ := @giveBack_step tid world { world.store invoiceKey next with
          history := world.history.giveBack tid invoiceKey } invoiceKey flight only (own.own rfl) rfl
        History.giveBack_current History.giveBack_started History.giveBack_attempts fun _ => World.store_ne
      exact ⟨flight, minds, FlightKnows.yield free only⟩
  | finalize now finalStatus opts =>
    have free : phase.Free := allowed.1.elim (fun after => after.free) fun before => before.1.free
    have only := knows.only free
    rcases effect with ⟨_, rfl⟩ | ⟨_, rfl⟩
    · exact ⟨flight, (SameFlight.refl _).minds, FlightKnows.yield free only⟩
    · obtain ⟨next, -, -, -, finalized⟩ :=
        @RecordOp.finalize_perform tid invoiceKey world now finalStatus opts allowed.2.2
      rw [finalized]
      obtain ⟨flight, minds, only⟩ := @giveBack_step tid world { world.store invoiceKey next with
          history := if finalStatus = .providerSubmittedAmbiguous then
              (world.history.giveBack tid invoiceKey).endAmbiguous tid invoiceKey
            else world.history.giveBack tid invoiceKey } invoiceKey flight only (own.own rfl)
        (by dsimp only; split_ifs <;> rfl)
        (by dsimp only; split_ifs <;> [exact History.giveBack_current; exact History.giveBack_current])
        (by dsimp only; split_ifs <;> [exact History.giveBack_started; exact History.giveBack_started])
        (by dsimp only; split_ifs <;> [exact History.giveBack_attempts; exact History.giveBack_attempts])
        fun _ => World.store_ne
      exact ⟨flight, minds, FlightKnows.yield free only⟩

/-- The headroom does not matter to the flight. -/
theorem FlightKnows.guard {op : GuardOp} {answer : Option op.Answer} (knows : FlightKnows tid phase world) :
    FlightKnows tid (phase.next (.guard invoiceKey op) answer) world := by
  have settling {key : String} {now : ℕ} {invoiceAtomic : ℤ} {was was' : Bool} (holding reserved : Bool)
      (same : phase.settlement = .settling key now invoiceAtomic was was') :
      FlightKnows tid { phase with settlement := .settling key now invoiceAtomic (was && holding) reserved } world := by
    simp only [FlightKnows, same] at knows
    cases was with
    | false => exact knows
    | true =>
      cases holding with
      | false => exact knows.1
      | true => exact knows
  cases op with
  | claimInvoice now => exact knows
  | reserveDailySpend now delta =>
    simp only [Phase.next]
    cases same : phase.settlement with
    | settling key now invoiceAtomic was was' => exact settling answer.isSome _ same
    | _ => simpa only [FlightKnows, same, Settlement.reserve] using knows
  | releaseDailySpend whose now delta =>
    cases whose with
    | reopened => exact knows
    | own =>
      simp only [Phase.next]
      cases same : phase.settlement with
      | settling key now invoiceAtomic was was' =>
        have given := settling false false same
        rwa [Bool.and_false] at given
      | _ => simpa only [FlightKnows, same, Settlement.unreserve] using knows

theorem guard_flight {op : GuardOp} (world : World) : SameFlight world (op.perform tid invoiceKey world).2 := by
  have counts : ∀ counted, ∀ attempt : Attempt, ({ attempt with counted } : Attempt).flight = attempt.flight :=
    fun _ _ => rfl
  cases op with
  | claimInvoice now => exact ⟨rfl, rfl, rfl, fun _ => rfl, fun _ record stored guarded => ⟨record, stored, guarded⟩⟩
  | reserveDailySpend now delta =>
    simp only [GuardOp.perform]
    split_ifs
    · exact .modify _ (counts true)
    · exact ⟨rfl, rfl, rfl, fun _ => rfl, fun _ record stored guarded => ⟨record, stored, guarded⟩⟩
  | releaseDailySpend whose now delta => exact .modify _ (counts false)

theorem keeps_flight (tid : ℕ) : flow.Keeps singleFlight OwnClaim tid (FlightKnows tid) where
  stable := FlightKnows.stable
  step := by
    intro phase action allowed world flight knows choice answer after own performed
    have trace : ∀ trace, SameFlight world { world with history := { world.history with trace } } := fun _ =>
      ⟨rfl, rfl, rfl, fun _ => rfl, fun _ record stored guarded => ⟨record, stored, guarded⟩⟩
    cases action with
    | record invoiceKey op => exact record_flight allowed flight knows own (some.inj performed)
    | guard invoiceKey op =>
      have same : SameFlight world after := by
        rcases fault_cases (some.inj performed) with ⟨_, rfl⟩ | ⟨_, rfl⟩
        · exact .refl _
        · exact guard_flight world
      exact ⟨same.flight flight, same.minds, (same.knows rfl knows).guard⟩
    | scan | checkoutDeliveryPaused | funderBalance | decryptCapability =>
      cases performed
      exact (SameFlight.refl _).step flight knows rfl
    | resolveStripeInvoice invoiceKey =>
      simp only [some.injEq, perform] at performed
      split at performed <;> cases performed
      · exact (SameFlight.refl _).step flight knows rfl
      · exact (trace _).step flight knows rfl
    | send invoiceKey args =>
      obtain ⟨records, -, trace, became⟩ := send_calls performed
      obtain ⟨now, invoiceAtomic, settling⟩ := allowed
      simp only [FlightKnows, settling] at knows
      obtain ⟨only, id, mine, held⟩ := knows
      rw [mine] at became
      obtain ⟨flight, minds, onlyMine⟩ := call_step flight mine held .outstanding ⟨trace, became⟩ records
      refine ⟨flight, minds, ?_⟩
      have next : (flow.next phase (.send invoiceKey args) answer).settlement = .calling invoiceKey := by
        show phase.settlement.send = _
        rw [settling]
        rfl
      have stillMine : after.history.current tid invoiceKey = some id := by
        simp only [became, History.modify_current, mine]
      have stillHeld : after.history.holder invoiceKey = some id := by
        simp only [became, History.modify_holder, held]
      simp only [FlightKnows, next, stillMine]
      have noCall : world.OnlyCalls tid (some id) := fun other attempt found ours calling =>
        nomatch only other attempt found ours calling
      exact ⟨onlyMine noCall, id, stillMine, stillHeld⟩
    | receive invoiceKey =>
      obtain ⟨records, -, trace, became⟩ := receive_calls performed
      have calling : phase.settlement = .calling invoiceKey := allowed
      simp only [FlightKnows, calling] at knows
      obtain ⟨only, id, mine, held⟩ := knows
      rw [mine] at only became
      have settled : CallState.received (payInvoiceResult answer) ≠ .outstanding := by
        unfold CallState.received
        split_ifs <;> exact nofun
      obtain ⟨flight, minds, onlyMine⟩ := call_step flight mine held (.received (payInvoiceResult answer))
        ⟨trace, became⟩ records
      refine ⟨flight, minds, ?_⟩
      have next : (flow.next phase (.receive invoiceKey) answer).settlement =
          .answered invoiceKey (CallState.received (payInvoiceResult answer) = .refused) := by
        show phase.settlement.receive answer = _
        rw [calling]
        rfl
      simp only [FlightKnows, next]
      simpa only [settled, if_false] using onlyMine only

end Steps

theorem flight_fresh (caps : DailySpendLedger → Option ℤ) : Flight (.fresh caps) where
  numbered := ⟨fun _ _ => rfl, nofun⟩
  held := nofun
  outstanding := nofun

/-! ## Runs -/

/-- While claims are given back by their handlers only, the calls for one invoice exclude each other. -/
theorem single_flight {caps : DailySpendLedger → Option ℤ} {requests : ℕ → Request} {after : stripeMachine.Config}
    (run : Run OwnClaim (serving caps requests) after) : after.world.SingleFlight := by
  have inv : singleFlight.Inv (serving caps requests).world := flight_fresh caps
  have idle : ∀ tid, FlightKnows tid {} (serving caps requests).world := fun tid id attempt found => nomatch found
  have flight : Flight after.world :=
    Typestate.sound keeps_flight {} inv idle (fun tid => (requests tid).serve_follows fun _ => nofun) run
  exact flight.singleFlight

/-! ## Giving back twice -/

/-- Two attempts have a call out for one invoice. -/
def World.rivals (world : World) (id other : ℕ) : Bool :=
  match world.history.attempts.lookup id, world.history.attempts.lookup other with
  | some attempt, some rival =>
    attempt.invoiceKey = rival.invoiceKey ∧ attempt.call = .outstanding ∧ rival.call = .outstanding
  | _, _ => false

theorem World.rivals_not_single {world : World} {id other : ℕ} (distinct : id ≠ other)
    (rivals : world.rivals id other = true) : ¬ world.SingleFlight := by
  intro single
  unfold World.rivals at rivals
  split at rivals
  next attempt rival found foundRival =>
    simp only [decide_eq_true_eq] at rivals
    obtain ⟨same, calling, callingRival⟩ := rivals
    exact distinct (single.one id other attempt rival found foundRival same calling callingRival)
  next => cases rivals

/-- One seed, then payin events for the same invoice. -/
def payins : ℕ → Request
  | 0 => .seed "cpis_a" seedOfHundred 0
  | tid => .webhook ⟨"cpis_a", ⟨"event", "payment_payin_completed", none⟩, tid⟩

/-- The answer to the first handler's release is lost; its catch releases the second handler's claim. -/
def releasedTwice : List (ℕ × Choice) :=
  (0, {}) :: (1, {}) :: (1, { paused := true }) :: (1, { fault := .lost }) ::
    (settleSteps 2 ++ (1, {}) :: settleSteps 3)

theorem two_in_flight : ∃ after, Run (unrestricted stripeMachine)
    (serving (capOf 200000000) payins) after ∧ ¬ after.world.SingleFlight := by
  obtain ⟨after, run, rivals⟩ := Config.exec_reaches (unrestricted stripeMachine)
    (serving (capOf 200000000) payins) releasedTwice (fun world => world.rivals 1 2) rfl
  exact ⟨after, run, World.rivals_not_single (by decide) rivals⟩

def refusal : List (ℕ × Choice) :=
  [(2, { pay := .answered 403 (some { code := some "stripe_fulfillment_disabled" }) }), (2, {}), (2, {})]

/-- A handler gives its claim back while the switch is off; the next one does so once its call is refused. -/
def givenBack : List (ℕ × Choice) :=
  (0, {}) :: (1, {}) :: (1, { paused := true }) :: (1, {}) :: (settleSteps 2 ++ refusal)

/-- The third handler has its call out, alone. -/
theorem single_flight_payin : ∃ after, Run OwnClaim (serving (capOf 200000000) payins) after ∧
    after.world.rivals 2 2 = true ∧ after.world.SingleFlight := by
  obtain ⟨after, run, calling⟩ := Config.exec_reaches OwnClaim (serving (capOf 200000000) payins)
    (givenBack ++ settleSteps 3) (fun world => world.rivals 2 2) rfl
  exact ⟨after, run, calling, single_flight run⟩

end MppRouter.Routes.Stripe
