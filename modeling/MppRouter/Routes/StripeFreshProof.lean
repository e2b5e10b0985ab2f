import MppRouter.Routes.StripeSingleFlight

/-! # Fresh proof before a call is repeated

A call that ended ambiguous is repeated only on Stripe's word that the session is untouched. A retry of
its own reads Stripe after it found the record ambiguous; a sweep may take the reconciler's last check
instead. That check counts as fresh by its time, and its read may still be older than the ambiguous
outcome when another sweep repeated the call in between.
-/

namespace MppRouter.Routes.Stripe

open Concurrent Machine Mpp Typestate List Option Function

/-- Since every ambiguous outcome of the invoice, Stripe was read and showed the session untouched. -/
def FreshProof (invoiceKey : String) (trace : List Trace) : Prop :=
  ∀ since before, trace = since ++ .ambiguous invoiceKey :: before →
    ∃ live, Trace.read invoiceKey live ∈ since ∧ live.safe = true

/-- No call is sent after an ambiguous outcome without a safe read made since. -/
def EverySendProven (trace : List Trace) : Prop :=
  ∀ later invoiceKey earlier, trace = later ++ .sent invoiceKey :: earlier → FreshProof invoiceKey earlier

/-- No ambiguous outcome was recorded since this read. -/
def untouchedSince (invoiceKey : String) (live : LiveState) (trace : List Trace) : Bool :=
  (trace.takeWhile (· ≠ .read invoiceKey live)).all (· ≠ .ambiguous invoiceKey)

/-- A cron retry that takes a safe check for fresh finds no ambiguous outcome since its read; outcomes are
recorded under the handler's claim, and a claim is stepped down only when no other is in force. -/
def freshRetry (tid : ℕ) (action : Action) (world : World) : Bool :=
  match action with
  | .record invoiceKey (.release _ _ _ _ _) =>
    (world.history.holder invoiceKey).all fun id => world.history.current tid invoiceKey = some id
  | .record invoiceKey (.finalize _ _ _) =>
    (world.history.holder invoiceKey).any fun id => world.history.current tid invoiceKey = some id
  | .record invoiceKey (.inspect now .cron) =>
    (world.records invoiceKey).all fun record => record.status ≠ .providerSubmittedAmbiguous ||
      (freshCheck now record).all fun checked =>
        !checked.live.safe || untouchedSince invoiceKey checked.live world.history.trace
  | _ => true

abbrev FreshRetry : stripeMachine.Admits := fun tid action _ world => freshRetry tid action world = true

/-! ## Proofs over a growing trace -/

namespace FreshProof

variable {invoiceKey : String} {trace : List Trace} {live : LiveState}

theorem nil : FreshProof invoiceKey [] := by
  intro since before same
  cases since <;> cases same

/-- A safe read proves everything before it. -/
theorem read (safe : live.safe = true) : FreshProof invoiceKey (.read invoiceKey live :: trace) := by
  intro since before same
  cases since with
  | nil => cases same
  | cons item rest =>
    cases same
    exact ⟨live, mem_cons_self, safe⟩

theorem cons {item : Trace} (plain : item ≠ .ambiguous invoiceKey) (proof : FreshProof invoiceKey trace) :
    FreshProof invoiceKey (item :: trace) := by
  intro since before same
  cases since with
  | nil =>
    cases same
    exact absurd rfl plain
  | cons head rest =>
    cases same
    obtain ⟨live, member, safe⟩ := proof rest before rfl
    exact ⟨live, mem_cons_of_mem _ member, safe⟩

theorem of_untouched (member : Trace.read invoiceKey live ∈ trace) (safe : live.safe = true)
    (untouched : untouchedSince invoiceKey live trace = true) : FreshProof invoiceKey trace := by
  induction trace with
  | nil => cases member
  | cons item rest ih =>
    by_cases found : item = .read invoiceKey live
    · subst found
      exact read safe
    · have earlier : Trace.read invoiceKey live ∈ rest := by
        rcases mem_cons.mp member with same | earlier
        · exact absurd same.symm found
        · exact earlier
      simp only [untouchedSince, takeWhile_cons, decide_not, found, decide_false, Bool.not_false, if_true,
        all_cons, Bool.and_eq_true, Bool.not_eq_true', decide_eq_false_iff_not] at untouched
      obtain ⟨plain, untouched⟩ := untouched
      exact cons plain (ih earlier (by simpa [untouchedSince] using untouched))

end FreshProof

theorem EverySendProven.cons {trace : List Trace} {item : Trace} (proven : EverySendProven trace)
    (sent : ∀ invoiceKey, item = .sent invoiceKey → FreshProof invoiceKey trace) : EverySendProven (item :: trace) := by
  intro later invoiceKey earlier same
  cases later with
  | nil =>
    cases same
    exact sent invoiceKey rfl
  | cons head rest =>
    cases same
    exact proven rest invoiceKey earlier rfl

/-! ## The invariant -/

/-- Only a retry leads from here to another claim. -/
def StripeRouterStatus.resting (status : StripeRouterStatus) : Bool :=
  status.terminal || decide (status = .providerSubmittedAmbiguous)

variable {status : StripeRouterStatus}

theorem resting_not_claimable (resting : status.resting = true) : status.claimable = false := by
  cases status <;> first | rfl | cases resting

theorem resting_not_paying (resting : status.resting = true) : status ≠ .providerPaying := by
  rintro rfl
  cases resting

theorem terminal_resting (terminal : status.terminal = true) : status.resting = true := by
  simp [StripeRouterStatus.resting, terminal]

/-- The record waits for a retry, and nobody's claim on it is in force. -/
def World.Resting (world : World) (invoiceKey : String) : Prop :=
  (world.recordOf invoiceKey).status.resting = true ∧ world.history.holder invoiceKey = none

def World.retries (world : World) (invoiceKey : String) : ℕ := (world.recordOf invoiceKey).ambiguousRetries

structure Provenance (world : World) : Prop where
  flight : Flight world
  paying : ∀ invoiceKey, (world.recordOf invoiceKey).status = .providerPaying →
    world.history.holder invoiceKey ≠ none
  checks : ∀ invoiceKey check, lastReconcileCheck (world.recordOf invoiceKey) = some check →
    Trace.read invoiceKey check.live ∈ world.history.trace
  open_ : ∀ invoiceKey,
    (world.recordOf invoiceKey).status.claimable = true ∨ world.history.holder invoiceKey ≠ none →
    FreshProof invoiceKey world.history.trace
  sends : EverySendProven world.history.trace

/-! ## What a retry may rely on -/

/-- Until a retry re-opens a resting record, nothing new happens to it. -/
structure Defers (before after : World) : Prop where
  reads : ∀ item, item ∈ before.history.trace → item ∈ after.history.trace
  retries : ∀ invoiceKey, before.retries invoiceKey ≤ after.retries invoiceKey
  resting : ∀ invoiceKey, before.Resting invoiceKey → after.retries invoiceKey = before.retries invoiceKey →
    after.Resting invoiceKey ∧
      (FreshProof invoiceKey before.history.trace → FreshProof invoiceKey after.history.trace)

def freshProof : Protocol stripeMachine :=
  ⟨Provenance, fun tid before after => Minds tid before after ∧ Defers before after⟩

/-- While the record was not retried since it was inspected, what the retry saw is a proof. -/
def Inspected.Proven (inspected : Inspected) (phase : Phase) (world : World) : Prop :=
  inspected.record.status = .providerSubmittedAmbiguous →
    inspected.record.ambiguousRetries ≤ world.retries inspected.invoiceKey ∧
      (world.retries inspected.invoiceKey = inspected.record.ambiguousRetries →
        world.Resting inspected.invoiceKey ∧ ∀ live, live.safe = true → phase.proves inspected live →
          FreshProof inspected.invoiceKey world.history.trace)

structure ProofKnows (tid : ℕ) (phase : Phase) (world : World) : Prop where
  flight : FlightKnows tid phase world
  read : ∀ invoiceKey live, phase.read = some (invoiceKey, live) → Trace.read invoiceKey live ∈ world.history.trace
  inspected : ∀ inspected, phase.inspected = some inspected → inspected.Proven phase world

theorem Inspected.Proven.kept {inspected : Inspected} {phase next : Phase} {world after : World}
    (defers : Defers world after) (read : next.read = phase.read) (proven : inspected.Proven phase world) :
    inspected.Proven next after := by
  intro ambiguous
  obtain ⟨atLeast, still⟩ := proven ambiguous
  have grows := defers.retries inspected.invoiceKey
  refine ⟨by omega, fun same => ?_⟩
  have before : world.retries inspected.invoiceKey = inspected.record.ambiguousRetries := by omega
  obtain ⟨resting, proofs⟩ := still before
  obtain ⟨stillResting, kept⟩ := defers.resting _ resting (by omega)
  refine ⟨stillResting, fun live safe proves => kept (proofs live safe ?_)⟩
  unfold Phase.proves at proves ⊢
  rwa [read] at proves

theorem ProofKnows.kept {tid : ℕ} {phase next : Phase} {world after : World} (knows : ProofKnows tid phase world)
    (flight : FlightKnows tid next after) (defers : Defers world after) (inspected : next.inspected = phase.inspected)
    (read : next.read = phase.read) : ProofKnows tid next after where
  flight := flight
  read := by
    intro invoiceKey live same
    rw [read] at same
    exact defers.reads _ (knows.read _ _ same)
  inspected := by
    intro looked same
    rw [inspected] at same
    exact (knows.inspected looked same).kept defers read

theorem ProofKnows.stable {tid : ℕ} (phase : Phase) : freshProof.Stable tid (ProofKnows tid phase) := by
  intro other world after distinct before later guar knows
  obtain ⟨minds, defers⟩ := guar
  exact knows.kept (FlightKnows.stable phase other world after distinct before.flight later.flight minds knows.flight) defers rfl rfl

/-! ## Steps on one invoice -/

section Steps

variable {tid : ℕ} {world after : World} {invoiceKey : String} {phase : Phase}

/-- What an operation on one record and its claim has to keep. -/
structure Turn (invoiceKey : String) (before after : World) : Prop where
  records : ∀ other, other ≠ invoiceKey → after.records other = before.records other
  holder : ∀ other, other ≠ invoiceKey → after.history.holder other = before.history.holder other
  trace : after.history.trace = before.history.trace ∨
    after.history.trace = .ambiguous invoiceKey :: before.history.trace
  paying : (after.recordOf invoiceKey).status = .providerPaying → after.history.holder invoiceKey ≠ none
  checks : ∀ check, lastReconcileCheck (after.recordOf invoiceKey) = some check →
    Trace.read invoiceKey check.live ∈ before.history.trace
  open_ : (after.recordOf invoiceKey).status.claimable = true ∨ after.history.holder invoiceKey ≠ none →
    FreshProof invoiceKey after.history.trace
  retries : before.retries invoiceKey ≤ after.retries invoiceKey
  resting : before.Resting invoiceKey → after.retries invoiceKey = before.retries invoiceKey →
    after.Resting invoiceKey ∧ after.history.trace = before.history.trace

namespace Turn

section Turned

variable (turn : Turn invoiceKey world after)

include turn

theorem recordOf {other : String} (distinct : other ≠ invoiceKey) : after.recordOf other = world.recordOf other := by
  rw [World.recordOf, turn.records other distinct, World.recordOf]

theorem member {item : Trace} (earlier : item ∈ world.history.trace) : item ∈ after.history.trace := by
  rcases turn.trace with same | ended
  · rwa [same]
  · rw [ended]
    exact mem_cons_of_mem _ earlier

theorem elsewhere {other : String} (distinct : other ≠ invoiceKey)
    (proof : FreshProof other world.history.trace) : FreshProof other after.history.trace := by
  rcases turn.trace with same | ended
  · rwa [same]
  · rw [ended]
    exact .cons (fun same => distinct (Trace.ambiguous.inj same).symm) proof

theorem provenance (prov : Provenance world) (flight : Flight after) : Provenance after where
  flight := flight
  paying := by
    intro other paying
    by_cases same : other = invoiceKey
    · subst same
      exact turn.paying paying
    · rw [turn.holder other same]
      rw [turn.recordOf same] at paying
      exact prov.paying other paying
  checks := by
    intro other check last
    by_cases same : other = invoiceKey
    · subst same
      exact turn.member (turn.checks check last)
    · rw [turn.recordOf same] at last
      exact turn.member (prov.checks other check last)
  open_ := by
    intro other opened
    by_cases same : other = invoiceKey
    · subst same
      exact turn.open_ opened
    · rw [turn.recordOf same, turn.holder other same] at opened
      exact turn.elsewhere same (prov.open_ other opened)
  sends := by
    rcases turn.trace with same | ended
    · rw [same]
      exact prov.sends
    · rw [ended]
      exact prov.sends.cons fun _ same => nomatch same

theorem defers : Defers world after where
  reads := fun _ => turn.member
  retries := by
    intro other
    by_cases same : other = invoiceKey
    · subst same
      exact turn.retries
    · rw [World.retries, World.retries, turn.recordOf same]
  resting := by
    intro other resting unretried
    by_cases same : other = invoiceKey
    · subst same
      obtain ⟨stillResting, trace⟩ := turn.resting resting unretried
      exact ⟨stillResting, fun proof => by rwa [trace]⟩
    · obtain ⟨status, holder⟩ := resting
      refine ⟨⟨?_, ?_⟩, turn.elsewhere same⟩
      · rwa [turn.recordOf same]
      · rwa [turn.holder other same]

end Turned

/-- A record moves on; its claim and the trace stay. -/
theorem quiet (prov : Provenance world) (history : after.history = world.history)
    (records : ∀ other, other ≠ invoiceKey → after.records other = world.records other)
    (paying : (after.recordOf invoiceKey).status = .providerPaying →
      (world.recordOf invoiceKey).status = .providerPaying)
    (claimable : (after.recordOf invoiceKey).status.claimable = true →
      (world.recordOf invoiceKey).status.claimable = true)
    (rests : (world.recordOf invoiceKey).status.resting = true → (after.recordOf invoiceKey).status.resting = true)
    (checks : ∀ check, lastReconcileCheck (after.recordOf invoiceKey) = some check →
      Trace.read invoiceKey check.live ∈ world.history.trace)
    (retries : (after.recordOf invoiceKey).ambiguousRetries = (world.recordOf invoiceKey).ambiguousRetries) :
    Turn invoiceKey world after where
  records := records
  holder := fun _ _ => by rw [history]
  trace := .inl (by rw [history])
  paying := by
    rw [history]
    exact fun now => prov.paying _ (paying now)
  checks := checks
  open_ := by
    rw [history]
    rintro (now | held)
    · exact prov.open_ _ (.inl (claimable now))
    · exact prov.open_ _ (.inr held)
  retries := le_of_eq retries.symm
  resting := by
    rintro ⟨status, holder⟩ _
    exact ⟨⟨rests status, by rw [history, holder]⟩, by rw [history]⟩

end Turn

theorem Moves.paying {before after : StripeFulfillmentRecord} (moves : Moves before after)
    (paying : after.status = .providerPaying) : before.status = .providerPaying := by
  rcases moves.status with same | ⟨_, terminal⟩
  · rwa [← same]
  · rw [paying] at terminal
    cases terminal

theorem Moves.resting {before after : StripeFulfillmentRecord} (moves : Moves before after)
    (resting : before.status.resting = true) : after.status.resting = true := by
  rcases moves.status with same | ⟨_, terminal⟩
  · rwa [same]
  · exact terminal_resting terminal

theorem recordOf_stored {next : StripeFulfillmentRecord}
    (records : after.records = (world.store invoiceKey next).records) : after.recordOf invoiceKey = next := by
  rw [World.recordOf, records, World.store_self, getD_some]

theorem Turn.refl (prov : Provenance world) : Turn invoiceKey world world :=
  .quiet prov rfl (fun _ _ => rfl) id id id (prov.checks invoiceKey) rfl

theorem passive_turn {op : RecordOp} (passive : op.passive = true) (prov : Provenance world)
    (seen : ∀ now live, op = .recordCheck now live → Trace.read invoiceKey live ∈ world.history.trace) :
    Turn invoiceKey world (op.perform tid invoiceKey world).2 := by
  rcases op.passive_perform world passive with same | ⟨next, stored, moves, check⟩
  · rw [same]
    exact .refl prov
  · rw [stored]
    have now : (world.store invoiceKey next).recordOf invoiceKey = next := recordOf_stored rfl
    refine .quiet prov rfl (fun _ => World.store_ne) ?_ ?_ ?_ ?_ ?_
    · rw [now]
      exact moves.paying
    · rw [now]
      exact moves.claimable
    · rw [now]
      exact moves.resting
    · rw [now]
      intro found last
      rcases check found last with earlier | ⟨clock, recorded⟩
      · exact prov.checks _ _ earlier
      · exact seen _ _ recorded
    · rw [now, moves.retries]

/-- A claim takes a claimable record, which has its proof. -/
theorem claim_turn (prov : Provenance world) (input : StripeWebhookInput) (now : ℕ) :
    Turn invoiceKey world ((RecordOp.claim input now).perform tid invoiceKey world).2 := by
  obtain ⟨next, retries, check, outcome⟩ := @RecordOp.claim_perform tid invoiceKey world input now
  rcases outcome with ⟨invoiceAtomic, -, claimable, paying, claimed⟩ | ⟨claim, -, status, refused⟩
  · rw [claimed]
    have stored : ∀ history, ({ world.store invoiceKey next with history } : World).recordOf invoiceKey = next :=
      fun _ => recordOf_stored rfl
    have holder : ∀ other, (world.history.start { tid, invoiceKey, amount := invoiceAtomic, day := now / dayMs }).holder
        other = if other = invoiceKey then some world.history.started else world.history.holder other :=
      History.start_holder _
    refine ⟨fun _ => World.store_ne, ?_, .inl rfl, ?_, ?_, fun _ => prov.open_ _ (.inl claimable), ?_, ?_⟩
    · intro other distinct
      rw [holder, if_neg distinct]
    · intro _
      rw [holder, if_pos rfl]
      exact nofun
    · rw [stored]
      exact fun found last => prov.checks _ _ (check found last)
    · rw [World.retries, World.retries, stored, retries]
    · rintro ⟨resting, _⟩ _
      rw [resting_not_claimable resting] at claimable
      cases claimable
  · rw [refused]
    have stored : (world.store invoiceKey next).recordOf invoiceKey = next := recordOf_stored rfl
    refine .quiet prov rfl (fun _ => World.store_ne) ?_ ?_ ?_ ?_ ?_
    · rw [stored]
      intro paying
      rcases status with same | ⟨_, seen⟩ | ⟨_, review⟩
      · rwa [← same]
      · rw [seen] at paying
        cases paying
      · rw [review] at paying
        cases paying
    · rw [stored]
      intro claimable
      rcases status with same | ⟨was, _⟩ | ⟨was, _⟩
      · rwa [← same]
      · exact was
      · exact was
    · rw [stored]
      intro resting
      rcases status with same | ⟨was, _⟩ | ⟨was, _⟩
      · rwa [same]
      · rw [resting_not_claimable resting] at was
        cases was
      · rw [resting_not_claimable resting] at was
        cases was
    · rw [stored]
      exact fun found last => prov.checks _ _ (check found last)
    · rw [stored, retries]

/-- A retry re-opens a record that is as it was inspected, on the proof of what it saw. -/
theorem reopen_turn (prov : Provenance world) (now : ℕ) (plan : RetryPlan)
    (proven : world.retries invoiceKey = plan.attempts → world.Resting invoiceKey ∧
      FreshProof invoiceKey world.history.trace) :
    Turn invoiceKey world ((RecordOp.reopen now plan).perform tid invoiceKey world).2 := by
  rcases @RecordOp.reopen_perform tid invoiceKey world now plan with
    refused | ⟨record, next, was, -, attempts, opened, retries, check, reopened⟩
  · rw [refused]
    exact .refl prov
  · rw [reopened]
    have before : world.recordOf invoiceKey = record := World.recordOf_eq was
    have stored : ∀ history, ({ world.store invoiceKey next with history } : World).recordOf invoiceKey = next :=
      fun _ => recordOf_stored rfl
    obtain ⟨⟨_, unheld⟩, proof⟩ := proven (by rw [World.retries, before, attempts])
    have trace : (world.history.reopen tid invoiceKey).trace = world.history.trace := History.modify_trace
    have holder : (world.history.reopen tid invoiceKey).holder = world.history.holder := History.modify_holder
    refine ⟨fun _ => World.store_ne, fun other _ => congrFun holder other, .inl trace, ?_, ?_, ?_, ?_, ?_⟩
    · rw [stored, opened]
      exact nofun
    · rw [stored]
      rw [← before] at check
      exact fun found last => prov.checks _ _ (check found last)
    · intro _
      show FreshProof invoiceKey (world.history.reopen tid invoiceKey).trace
      rwa [trace]
    · rw [World.retries, World.retries, stored, before, retries, attempts]
      omega
    · intro _ unretried
      rw [World.retries, World.retries, stored, before, retries, attempts] at unretried
      omega

theorem giveBack_holder_ne {other : String} (distinct : other ≠ invoiceKey) :
    (world.history.giveBack tid invoiceKey).holder other = world.history.holder other := by
  unfold History.giveBack
  split_ifs
  · exact update_of_ne distinct ..
  · rfl

theorem giveBack_unheld (unheld : world.history.holder invoiceKey = none) :
    (world.history.giveBack tid invoiceKey).holder invoiceKey = none := by
  unfold History.giveBack
  split_ifs
  · exact update_self ..
  · exact unheld

theorem giveBack_own {id : ℕ} (held : world.history.holder invoiceKey = some id)
    (own : world.history.current tid invoiceKey = some id) :
    (world.history.giveBack tid invoiceKey).holder invoiceKey = none := by
  rw [History.giveBack, held, own, if_pos rfl]
  exact update_self ..

/-- Stepping a claim down opens a record that was held, and so has its proof. -/
theorem release_turn (prov : Provenance world) (now : ℕ) {releaseTo : StripeRouterStatus} (balance : Option ℤ)
    (kind : String) {detail : EventDetail} (gives : releaseTo ≠ .providerPaying) (plain : detail.isLive = false) :
    Turn invoiceKey world ((RecordOp.release now releaseTo balance kind detail).perform tid invoiceKey world).2 := by
  obtain ⟨next, retries, status, check, released⟩ :=
    @RecordOp.release_perform tid invoiceKey world now releaseTo balance kind detail plain
  rw [released]
  have stored : ∀ history, ({ world.store invoiceKey next with history } : World).recordOf invoiceKey = next :=
    fun _ => recordOf_stored rfl
  refine ⟨fun _ => World.store_ne, fun _ => giveBack_holder_ne, .inl History.giveBack_trace, ?_, ?_, ?_, ?_, ?_⟩
  · rw [stored, status]
    split_ifs with paying
    · exact fun same => absurd same gives
    · exact fun same => absurd same paying
  · rw [stored]
    exact fun found last => prov.checks _ _ (check found last)
  · intro opened
    show FreshProof invoiceKey (world.history.giveBack tid invoiceKey).trace
    rw [History.giveBack_trace]
    apply prov.open_
    by_cases unheld : world.history.holder invoiceKey = none
    · left
      rcases opened with claimable | held
      · rw [stored, status] at claimable
        split_ifs at claimable with paying
        · exact absurd unheld (prov.paying _ paying)
        · exact claimable
      · exact absurd (giveBack_unheld unheld) held
    · exact .inr unheld
  · rw [World.retries, World.retries, stored, retries]
  · rintro ⟨resting, unheld⟩ _
    refine ⟨⟨?_, giveBack_unheld unheld⟩, History.giveBack_trace⟩
    rw [stored, status, if_neg (resting_not_paying resting)]
    exact resting

/-- An outcome is recorded under the handler's claim; an ambiguous one closes the record for all but a retry. -/
theorem finalize_turn (prov : Provenance world) (now : ℕ) {finalStatus : StripeRouterStatus} {opts : FinalizeOpts}
    (gives : finalStatus ≠ .providerPaying) (plain : opts.detail.isLive = false) {id : ℕ}
    (held : world.history.holder invoiceKey = some id) (own : world.history.current tid invoiceKey = some id) :
    Turn invoiceKey world ((RecordOp.finalize now finalStatus opts).perform tid invoiceKey world).2 := by
  obtain ⟨next, retries, status, check, finalized⟩ :=
    @RecordOp.finalize_perform tid invoiceKey world now finalStatus opts plain
  rw [finalized]
  have stored : ∀ history, ({ world.store invoiceKey next with history } : World).recordOf invoiceKey = next :=
    fun _ => recordOf_stored rfl
  have proof := prov.open_ invoiceKey (.inr (by rw [held]; exact nofun))
  have moved : next.status ≠ .providerPaying := by
    rw [status]
    split_ifs with paid
    · exact gives
    · rw [not_not.mp paid]
      exact nofun
  refine ⟨fun _ => World.store_ne, ?_, ?_, ?_, ?_, ?_, ?_, ?_⟩
  · intro other distinct
    dsimp only
    split_ifs
    · exact giveBack_holder_ne distinct
    · exact giveBack_holder_ne distinct
  · dsimp only
    split_ifs
    · right
      simp [History.endAmbiguous]
    · left
      exact History.giveBack_trace
  · rw [stored]
    exact fun same => absurd same moved
  · rw [stored]
    exact fun found last => prov.checks _ _ (check found last)
  · rw [stored]
    dsimp only
    split_ifs with ambiguous
    · rintro (claimable | stillHeld)
      · rw [status, ambiguous] at claimable
        split_ifs at claimable with paid
        · cases claimable
        · rw [not_not.mp paid] at claimable
          cases claimable
      · exact absurd (giveBack_own held own) stillHeld
    · intro _
      rwa [History.giveBack_trace]
  · rw [World.retries, World.retries, stored, retries]
  · rintro ⟨_, unheld⟩
    rw [held] at unheld
    cases unheld

/-- Records and claims stay; the trace grows by anything but an ambiguous outcome. -/
theorem Provenance.grow (prov : Provenance world) (flight : Flight after) (records : after.records = world.records)
    (holder : after.history.holder = world.history.holder)
    (trace : after.history.trace = world.history.trace ∨
      ∃ item, after.history.trace = item :: world.history.trace ∧ (∀ invoiceKey, item ≠ .ambiguous invoiceKey) ∧
        ∀ invoiceKey, item = .sent invoiceKey → FreshProof invoiceKey world.history.trace) :
    Provenance after ∧ Defers world after := by
  have recordOf : ∀ invoiceKey, after.recordOf invoiceKey = world.recordOf invoiceKey := by
    intro invoiceKey
    rw [World.recordOf, records, World.recordOf]
  have member : ∀ item, item ∈ world.history.trace → item ∈ after.history.trace := by
    intro item earlier
    rcases trace with same | ⟨_, grown, _⟩
    · rwa [same]
    · rw [grown]
      exact mem_cons_of_mem _ earlier
  have proofs : ∀ invoiceKey, FreshProof invoiceKey world.history.trace →
      FreshProof invoiceKey after.history.trace := by
    intro invoiceKey proof
    rcases trace with same | ⟨_, grown, plain, _⟩
    · rwa [same]
    · rw [grown]
      exact .cons (plain invoiceKey) proof
  refine ⟨⟨flight, ?_, ?_, ?_, ?_⟩, ⟨member, ?_, ?_⟩⟩
  · intro invoiceKey
    rw [recordOf, holder]
    exact prov.paying invoiceKey
  · intro invoiceKey check last
    rw [recordOf] at last
    exact member _ (prov.checks _ _ last)
  · intro invoiceKey
    rw [recordOf, holder]
    exact fun opened => proofs _ (prov.open_ _ opened)
  · rcases trace with same | ⟨_, grown, _, sent⟩
    · rw [same]
      exact prov.sends
    · rw [grown]
      exact prov.sends.cons sent
  · intro invoiceKey
    rw [World.retries, World.retries, recordOf]
  · rintro invoiceKey ⟨status, unheld⟩ _
    exact ⟨⟨by rwa [recordOf], by rwa [holder]⟩, proofs invoiceKey⟩

theorem FreshRetry.ownClaim {action : Action} {choice : Choice} (fresh : FreshRetry tid action choice world) :
    OwnClaim tid action choice world := by
  cases action with
  | record invoiceKey op =>
    cases op with
    | release => exact fresh
    | finalize =>
      obtain ⟨id, held, own⟩ := (any_eq_true _ _).mp fresh
      simp only [OwnClaim, Stripe.ownClaim, held, all_some]
      exact own
    | _ => rfl
  | _ => rfl

/-- What a retry knows of the record it just loaded. -/
theorem inspect_proven (prov : Provenance world) {now : ℕ} {source : RetrySource} {choice : Choice}
    (fresh : FreshRetry tid (.record invoiceKey (.inspect now source)) choice world) {record : StripeFulfillmentRecord}
    (stored : world.records invoiceKey = some record) {next : Phase} (unread : next.read = none) :
    Inspected.Proven ⟨invoiceKey, now, source, record⟩ next world := by
  intro ambiguous
  have wasAmbiguous : record.status = .providerSubmittedAmbiguous := ambiguous
  have loaded : world.recordOf invoiceKey = record := World.recordOf_eq stored
  have unheld : world.history.holder invoiceKey = none := by
    cases held : world.history.holder invoiceKey with
    | none => rfl
    | some id =>
      obtain ⟨same, found, guarded⟩ := prov.flight.held _ _ held
      rw [stored] at found
      cases found
      exact absurd wasAmbiguous (guarded_not_ambiguous guarded)
  refine ⟨by rw [World.retries, loaded], fun _ => ⟨⟨?_, unheld⟩, fun live safe proves => ?_⟩⟩
  · rw [loaded, wasAmbiguous]
    rfl
  · rcases proves with ⟨cron, cached⟩ | own
    · subst cron
      obtain ⟨checked, isFresh, rfl⟩ := map_eq_some_iff.mp cached
      have last : lastReconcileCheck (world.recordOf invoiceKey) = some checked := by
        rw [loaded]
        unfold freshCheck at isFresh
        split at isFresh
        next found stamp isLast _ =>
          split_ifs at isFresh
          rw [isLast, ← isFresh]
        next => cases isFresh
      have untouched : untouchedSince invoiceKey checked.live world.history.trace = true := by
        simpa [FreshRetry, freshRetry, stored, wasAmbiguous, isFresh, safe] using fresh
      exact .of_untouched (prov.checks _ _ last) safe untouched
    · rw [unread] at own
      cases own

theorem record_proof {op : RecordOp} {choice : Choice} (allowed : phase.allows (.record invoiceKey op))
    (prov : Provenance world) (knows : ProofKnows tid phase world)
    (fresh : FreshRetry tid (.record invoiceKey op) choice world) {answer : Option op.Answer}
    (performed : choice.fault.apply (op.perform tid invoiceKey) world = (answer, after)) :
    Provenance after ∧ (Minds tid world after ∧ Defers world after) ∧
      ProofKnows tid (phase.next (.record invoiceKey op) answer) after := by
  have effect := fault_cases performed
  obtain ⟨flight, minds, knowsFlight⟩ := (keeps_flight tid).step phase (.record invoiceKey op) allowed world prov.flight
    knows.flight choice answer after fresh.ownClaim (congrArg some performed)
  have finish (turn : Turn invoiceKey world after)
      (inspected : (phase.next (.record invoiceKey op) answer).inspected = phase.inspected)
      (read : (phase.next (.record invoiceKey op) answer).read = phase.read) :
      Provenance after ∧ (Minds tid world after ∧ Defers world after) ∧
        ProofKnows tid (phase.next (.record invoiceKey op) answer) after :=
    ⟨turn.provenance prov flight, ⟨minds, turn.defers⟩, knows.kept knowsFlight turn.defers inspected read⟩
  have passive (isPassive : op.passive = true)
      (seen : ∀ now live, op = .recordCheck now live → Trace.read invoiceKey live ∈ world.history.trace) :
      Turn invoiceKey world after := by
    rcases effect with ⟨_, rfl⟩ | ⟨_, rfl⟩
    · exact .refl prov
    · exact passive_turn isPassive prov seen
  cases op with
  | load | seed | stampCheck | recordCheckError | resolve => exact finish (passive rfl fun _ _ same => nomatch same) rfl rfl
  | recordCheck now live =>
    refine finish (passive rfl ?_) rfl rfl
    rintro _ _ ⟨⟩
    exact knows.read _ _ allowed
  | inspect now source =>
    have turn := passive rfl fun _ _ same => nomatch same
    refine ⟨turn.provenance prov flight, ⟨minds, turn.defers⟩, knowsFlight, nofun, fun inspected looked => ?_⟩
    rcases effect with ⟨rfl, _⟩ | ⟨rfl | rfl, became⟩
    · cases looked
    · cases looked
    · obtain ⟨record, stored, rfl⟩ := map_eq_some_iff.mp looked
      have unchanged : after = world := by
        rw [became]
        exact congrArg Prod.snd (@RecordOp.perform_of_noop tid invoiceKey world (.inspect now source) _ rfl)
      subst unchanged
      exact inspect_proven prov fresh stored rfl
  | claim input now =>
    refine finish ?_ ?_ ?_
    · rcases effect with ⟨_, rfl⟩ | ⟨_, rfl⟩
      · exact .refl prov
      · exact claim_turn prov input now
    · simp only [Phase.next]
      split <;> rfl
    · simp only [Phase.next]
      split <;> rfl
  | reopen now plan =>
    refine finish ?_ rfl rfl
    rcases effect with ⟨_, rfl⟩ | ⟨_, rfl⟩
    · exact .refl prov
    · obtain ⟨inspected, live, looked, rfl, ambiguous, attempts, safe, proves⟩ := allowed
      refine reopen_turn prov now plan fun unretried => ?_
      obtain ⟨resting, proofs⟩ := (knows.inspected inspected looked ambiguous).2 (by rw [unretried, attempts])
      exact ⟨resting, proofs live safe proves⟩
  | release now releaseTo balance kind detail =>
    refine finish ?_ rfl rfl
    rcases effect with ⟨_, rfl⟩ | ⟨_, rfl⟩
    · exact .refl prov
    · exact release_turn prov now balance kind allowed.2.1 allowed.2.2
  | finalize now finalStatus opts =>
    refine finish ?_ rfl rfl
    rcases effect with ⟨_, rfl⟩ | ⟨_, rfl⟩
    · exact .refl prov
    · obtain ⟨id, held, own⟩ := (any_eq_true _ _).mp fresh
      exact finalize_turn prov now allowed.2.1 allowed.2.2 held (of_decide_eq_true own)

theorem keeps_proof (tid : ℕ) : flow.Keeps freshProof FreshRetry tid (ProofKnows tid) where
  stable := ProofKnows.stable
  step := by
    intro phase action allowed world prov knows choice answer after fresh performed
    obtain ⟨flight, minds, knowsFlight⟩ := (keeps_flight tid).step phase action allowed world prov.flight knows.flight
      choice answer after fresh.ownClaim performed
    have grown (records : after.records = world.records) (holder : after.history.holder = world.history.holder)
        (trace : after.history.trace = world.history.trace)
        (inspected : (phase.next action answer).inspected = phase.inspected)
        (read : (phase.next action answer).read = phase.read) :
        Provenance after ∧ (Minds tid world after ∧ Defers world after) ∧
          ProofKnows tid (phase.next action answer) after := by
      obtain ⟨kept, defers⟩ := prov.grow flight records holder (.inl trace)
      exact ⟨kept, ⟨minds, defers⟩, knows.kept knowsFlight defers inspected read⟩
    cases action with
    | record invoiceKey op => exact record_proof allowed prov knows fresh (some.inj performed)
    | guard invoiceKey op =>
      have same : after.records = world.records ∧ after.history.holder = world.history.holder ∧
          after.history.trace = world.history.trace := by
        rcases fault_cases (some.inj performed) with ⟨_, rfl⟩ | ⟨_, rfl⟩
        · exact ⟨rfl, rfl, rfl⟩
        · cases op with
          | claimInvoice now => exact ⟨rfl, rfl, rfl⟩
          | reserveDailySpend now delta =>
            simp only [GuardOp.perform]
            split_ifs
            · exact ⟨rfl, History.modify_holder, History.modify_trace⟩
            · exact ⟨rfl, rfl, rfl⟩
          | releaseDailySpend whose now delta => exact ⟨rfl, History.modify_holder, History.modify_trace⟩
      obtain ⟨records, holder, trace⟩ := same
      cases op with
      | claimInvoice | reserveDailySpend => exact grown records holder trace rfl rfl
      | releaseDailySpend whose now delta => cases whose <;> exact grown records holder trace rfl rfl
    | scan | checkoutDeliveryPaused | funderBalance | decryptCapability =>
      cases performed
      exact grown rfl rfl rfl rfl rfl
    | resolveStripeInvoice invoiceKey =>
      simp only [some.injEq, perform] at performed
      split at performed
      next error => cases performed; exact grown rfl rfl rfl rfl rfl
      next state blockchainTxId =>
        cases performed
        obtain ⟨kept, defers⟩ := prov.grow flight rfl rfl
          (.inr ⟨_, rfl, by rintro _ ⟨⟩, by rintro _ ⟨⟩⟩)
        refine ⟨kept, ⟨minds, defers⟩, knowsFlight, ?_, fun inspected looked ambiguous => ?_⟩
        · rintro _ _ ⟨⟩
          exact mem_cons_self
        · obtain ⟨atLeast, proven⟩ := ((knows.inspected inspected looked).kept defers rfl) ambiguous
          refine ⟨atLeast, fun unretried => ⟨(proven unretried).1, fun live safe proves => ?_⟩⟩
          rcases proves with cached | own
          · exact (proven unretried).2 live safe (.inl cached)
          · cases own
            exact .read safe
    | send invoiceKey args =>
      cases performed
      obtain ⟨now, invoiceAtomic, settling⟩ := allowed
      have holds := knows.flight
      simp only [FlightKnows, settling] at holds
      obtain ⟨_, id, _, held⟩ := holds
      have proof := prov.open_ invoiceKey (.inr (by rw [held]; simp))
      obtain ⟨kept, defers⟩ := prov.grow flight rfl History.modify_holder
        (.inr ⟨.sent invoiceKey, by rw [History.modify_trace], by rintro _ ⟨⟩, fun _ same => Trace.sent.inj same ▸ proof⟩)
      exact ⟨kept, ⟨minds, defers⟩, knows.kept knowsFlight defers rfl rfl⟩
    | receive invoiceKey =>
      cases performed
      exact grown rfl History.modify_holder History.modify_trace rfl rfl

end Steps

theorem knows_fresh (caps : DailySpendLedger → Option ℤ) (tid : ℕ) : ProofKnows tid {} (.fresh caps) where
  flight := fun id attempt found => nomatch found
  read := by
    intro invoiceKey live same
    cases same
  inspected := by
    intro inspected same
    cases same

theorem provenance_fresh (caps : DailySpendLedger → Option ℤ) : Provenance (.fresh caps) where
  flight := flight_fresh caps
  paying := nofun
  checks := nofun
  open_ := fun _ _ => .nil
  sends := by
    intro later invoiceKey earlier same
    cases later <;> cases same

/-! ## Runs -/

/-- While no cron retry takes a check from before the last ambiguous outcome for fresh, every call after an
ambiguous outcome has its own safe read. -/
theorem every_send_proven {caps : DailySpendLedger → Option ℤ} {requests : ℕ → Request} {after : stripeMachine.Config}
    (run : Run FreshRetry (serving caps requests) after) : EverySendProven after.world.history.trace := by
  have inv : freshProof.Inv (serving caps requests).world := provenance_fresh caps
  have idle : ∀ tid, ProofKnows tid {} (serving caps requests).world := knows_fresh caps
  have prov : Provenance after.world :=
    Typestate.sound keeps_proof {} inv idle (fun tid => (requests tid).serve_follows fun _ => nofun) run
  exact prov.sends

/-! ## A check from before the outcome -/

/-- The trace ends in a call right after an ambiguous outcome. -/
def firedUnproven (invoiceKey : String) (trace : List Trace) : Bool :=
  [Trace.sent invoiceKey, .ambiguous invoiceKey].isPrefixOf trace

theorem firedUnproven_not_proven {invoiceKey : String} {trace : List Trace}
    (fired : firedUnproven invoiceKey trace = true) : ¬ EverySendProven trace := by
  intro proven
  obtain ⟨before, rfl⟩ := isPrefixOf_iff_prefix.mp fired
  obtain ⟨live, member, _⟩ := proven [] invoiceKey (.ambiguous invoiceKey :: before) rfl [] before rfl
  cases member

/-- A payin event, and two sweeps fifteen seconds apart. -/
def payinAndSweeps : ℕ → Request
  | 0 => .seed "cpis_a" seedOfHundred 0
  | 1 => .webhook ⟨"cpis_a", ⟨"event", "payment_payin_completed", none⟩, 1⟩
  | 2 => .sweep 20000
  | _ => .sweep 35000

/-- The call of a claimed record ends ambiguous, before anything was signed. -/
def endsAmbiguous (tid : ℕ) : List (ℕ × Choice) :=
  [(tid, { pay := .answered 503 (some { signed := some false }) }), (tid, {})]

def scans (tid : ℕ) : List (ℕ × Choice) := [(tid, { keys := ["cpis_a"] })]

/-- A sweep checks the record with Stripe, which shows the session untouched. -/
def checks (tid : ℕ) : List (ℕ × Choice) := [(tid, {}), (tid, {}), (tid, { reply := .live "checkout" none }), (tid, {})]

/-- It takes the check for fresh, re-opens the record and calls once more. -/
def refires (tid : ℕ) : List (ℕ × Choice) := (tid, {}) :: (tid, {}) :: (tid, {}) :: settleSteps tid

/-- The record is ambiguous; both sweeps list it and the first one calls again. -/
def refiredOnce : List (ℕ × Choice) :=
  (0, {}) :: (settleSteps 1 ++ endsAmbiguous 1 ++ scans 2 ++ scans 3 ++ checks 2 ++ refires 2)

/-- The second sweep's read falls before the ambiguous end of the first one's call. -/
def refiredTwice : List (ℕ × Choice) := refiredOnce ++ checks 3 ++ endsAmbiguous 2 ++ refires 3

theorem refired_without_proof : ∃ after, Run (unrestricted stripeMachine)
    (serving (capOf 200000000) payinAndSweeps) after ∧ ¬ EverySendProven after.world.history.trace := by
  obtain ⟨after, run, fired⟩ := Config.exec_reaches (unrestricted stripeMachine)
    (serving (capOf 200000000) payinAndSweeps) refiredTwice
    (fun world => firedUnproven "cpis_a" world.history.trace) rfl
  exact ⟨after, run, firedUnproven_not_proven fired⟩

theorem every_send_proven_refired : ∃ after, Run FreshRetry (serving (capOf 200000000) payinAndSweeps) after ∧
    [Trace.sent "cpis_a", .read "cpis_a" ⟨"checkout", none, 2⟩, .ambiguous "cpis_a"].isPrefixOf
      after.world.history.trace = true ∧ EverySendProven after.world.history.trace := by
  obtain ⟨after, run, refired⟩ := Config.exec_reaches FreshRetry (serving (capOf 200000000) payinAndSweeps)
    refiredOnce (fun world => [Trace.sent "cpis_a", .read "cpis_a" ⟨"checkout", none, 2⟩,
      .ambiguous "cpis_a"].isPrefixOf world.history.trace) rfl
  exact ⟨after, run, refired, every_send_proven run⟩

end MppRouter.Routes.Stripe
