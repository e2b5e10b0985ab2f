import MppRouter.Routes.CoinbaseRecord

/-! # Guarded saves lose nothing

A link's record is saved by the webhook, the sweep and the operators, each from a copy that may be stale. The save merges:
progress and one-shot marks only grow, and of two orders that were adopted as the settling one at the same time the second
is kept as a duplicate, so that no payer is forgotten.
-/

namespace MppRouter.Routes.Coinbase

open List Option

/-! ## Payers -/

/-- The orders that a record knows to have paid. -/
def FulfillmentRecord.payers (record : FulfillmentRecord) : List String :=
  record.settlingRozoPaymentId.toList ++ record.duplicateRozoPaymentIds

/-- The settling order is known before any duplicate of it, and is none of them. -/
structure Tracked (record : FulfillmentRecord) : Prop where
  settled : record.settlingRozoPaymentId = none → record.duplicateRozoPaymentIds = []
  named : record.settlingRozoPaymentId ≠ some ""
  apart : ∀ settling, record.settlingRozoPaymentId = some settling → settling ∉ record.duplicateRozoPaymentIds

variable {record : FulfillmentRecord}

theorem mem_payers {order : String} :
    order ∈ record.payers ↔ record.settlingRozoPaymentId = some order ∨ order ∈ record.duplicateRozoPaymentIds := by
  simp [FulfillmentRecord.payers]

theorem truthy_eq_some {text : Option String} {order : String} :
    truthy text = some order ↔ text = some order ∧ order ≠ "" := by
  simp [truthy]

/-- A record that is tracked already has its settling order, if any, at its face value. -/
theorem Tracked.truthy (tracked : Tracked record) :
    truthy record.settlingRozoPaymentId = record.settlingRozoPaymentId := by
  cases found : record.settlingRozoPaymentId with
  | none => rfl
  | some settling =>
    have named : settling ≠ "" := fun empty => tracked.named (found.trans (congrArg some empty))
    exact truthy_eq_some.mpr ⟨rfl, named⟩

theorem some_or {α : Type} (first : α) (second : Option α) : (some first <|> second) = some first := rfl

theorem none_or {α : Type} (second : Option α) : (none <|> second) = second := rfl

/-- A record from before the field was kept takes over the order it knew. -/
theorem adopt_tracked (tracked : Tracked record) {known : Option String} {settling : String}
    (found : (record.settlingRozoPaymentId <|> known) = some settling) (named : settling ≠ "") :
    ∃ adopted, adopted = (if (Coinbase.truthy record.settlingRozoPaymentId).isNone then
        { record with settlingRozoPaymentId := some settling } else record) ∧
      Tracked adopted ∧ adopted.settlingRozoPaymentId = some settling ∧
      adopted.duplicateRozoPaymentIds = record.duplicateRozoPaymentIds := by
  refine ⟨_, rfl, ?_⟩
  rw [tracked.truthy]
  cases stored : record.settlingRozoPaymentId with
  | none =>
    have alone := tracked.settled stored
    simp only [isNone_none, if_true]
    refine ⟨⟨fun impossible => (nomatch impossible), fun empty => named (some.inj empty), ?_⟩, trivial, trivial⟩
    intro other _
    simp [alone]
  | some mine =>
    rw [stored, some_or] at found
    simp only [isNone_some, Bool.false_eq_true, if_false]
    exact ⟨tracked, stored.trans found, trivial⟩

/-- Following a payment keeps the track of a record, and an order that settles is among the payers afterwards. -/
theorem trackSettlingOrder_tracked (tracked : Tracked record) (incoming : Option String) (settles locked : Bool) :
    Tracked (trackSettlingOrder record incoming settles locked).2 ∧
      ∀ order, settles = true → Coinbase.truthy incoming = some order →
        order ∈ (trackSettlingOrder record incoming settles locked).2.payers := by
  unfold trackSettlingOrder
  cases event : Coinbase.truthy incoming with
  | none => exact ⟨tracked, fun _ _ impossible => nomatch impossible⟩
  | some order =>
    have nonempty : order ≠ "" := (truthy_eq_some.mp event).2
    dsimp only
    cases settles with
    | false =>
      refine ⟨?_, fun _ impossible => nomatch impossible⟩
      simp only [Bool.not_false, if_true]
      split
      · exact ⟨tracked.settled, tracked.named, tracked.apart⟩
      · exact tracked
    | true =>
      simp only [Bool.not_true, Bool.false_eq_true, if_false]
      split
      next unsettled =>
        -- Nothing settles yet: the record has no duplicate either.
        have none : record.settlingRozoPaymentId = none := by
          cases found : record.settlingRozoPaymentId with
          | none => rfl
          | some settling =>
            have face := tracked.truthy
            rw [found] at unsettled face
            exact absurd (face.symm.trans unsettled) (some_ne_none settling)
        have alone := tracked.settled none
        constructor
        · constructor
          · exact fun impossible => nomatch impossible
          · exact fun empty => nonempty (some.inj empty)
          · intro settling _
            simp [alone]
        · intro other _ same
          obtain rfl := some.inj same
          exact mem_payers.mpr (.inl rfl)
      next settling follows =>
        obtain ⟨found, named⟩ := truthy_eq_some.mp follows
        obtain ⟨adopted, shape, kept, settled, same⟩ := adopt_tracked tracked found named
        rw [← shape]
        split
        next own =>
          subst own
          refine ⟨kept, fun other _ event => ?_⟩
          obtain rfl := some.inj event
          exact mem_payers.mpr (.inl settled)
        next foreign =>
          split
          next seen =>
            refine ⟨kept, fun other _ event => ?_⟩
            obtain rfl := some.inj event
            rw [← same] at seen
            exact mem_payers.mpr (.inr seen)
          next unseen =>
            constructor
            · constructor
              · exact fun unsettled => nomatch settled.symm.trans unsettled
              · exact kept.named
              · intro mine settles
                have mine : settling = mine := some.inj (settled.symm.trans settles)
                subst mine
                have before := kept.apart settling settled
                rw [same] at before
                simp only [mem_append, mem_singleton, not_or]
                exact ⟨before, foreign⟩
            · intro other _ event
              obtain rfl := some.inj event
              exact mem_payers.mpr (.inr (mem_append_right _ (mem_singleton_self _)))

/-! ## Merging -/

theorem mem_unique {α : Type} [DecidableEq α] {entries : List α} {entry : α} : entry ∈ unique entries ↔ entry ∈ entries := by
  simp [unique]

theorem mem_mergeEvents {stored next : List RecordEvent} {event : RecordEvent} :
    event ∈ mergeEvents stored next ↔ event ∈ stored ∨ event ∈ next := by
  simp [mergeEvents, mem_insertionSort, mem_unique]

variable {stored next : FulfillmentRecord}

/-- What merging makes of the settling order and the duplicates, whatever it is merged into. -/
theorem mergeSettlingTrack_tracked (mine : Tracked stored) (theirs : Tracked next) (base : FulfillmentRecord) :
    Tracked (mergeSettlingTrack stored next base) := by
  constructor
  · intro unsettled
    have none : stored.settlingRozoPaymentId = none ∧ next.settlingRozoPaymentId = none := by
      simpa [mergeSettlingTrack] using unsettled
    simp [mergeSettlingTrack, none.1, none.2, mine.settled none.1, theirs.settled none.2, truthy, unique]
  · show (stored.settlingRozoPaymentId <|> next.settlingRozoPaymentId) ≠ some ""
    cases found : stored.settlingRozoPaymentId with
    | none => exact theirs.named
    | some settling =>
      rw [some_or, ← found]
      exact mine.named
  · intro settling settled member
    have other := (mem_filter.mp member).2
    simp only [decide_eq_true_eq] at other
    exact other settled.symm

/-- No payer of either copy is lost. -/
theorem mem_payers_merge (mine : Tracked stored) (theirs : Tracked next) (base : FulfillmentRecord) {order : String}
    (paid : order ∈ stored.payers ∨ order ∈ next.payers) : order ∈ (mergeSettlingTrack stored next base).payers := by
  rw [mem_payers]
  by_cases settles : (stored.settlingRozoPaymentId <|> next.settlingRozoPaymentId) = some order
  · exact .inl settles
  right
  show order ∈ List.filter _ (unique _)
  rw [mem_filter, mem_unique, mem_append, mem_append]
  refine ⟨?_, decide_eq_true fun same => settles same.symm⟩
  rcases paid with paid | paid <;> rcases mem_payers.mp paid with settling | duplicate
  · rw [settling, some_or] at settles
    exact absurd rfl settles
  · exact .inl (.inl duplicate)
  · -- The copy's own settling order was overtaken by the stored one.
    right
    rw [mine.truthy, theirs.truthy, settling]
    cases found : stored.settlingRozoPaymentId with
    | none =>
      rw [found, none_or] at settles
      exact absurd settling settles
    | some first =>
      rw [found, some_or] at settles
      have different : first ≠ order := fun same => settles (congrArg some same)
      simp [different]
  · exact .inl (.inr duplicate)

/-- A later copy of a record: nothing that was noted is gone. -/
structure Grows (before after : FulfillmentRecord) : Prop where
  rank : before.status.rank ≤ after.status.rank
  status : 1 ≤ before.status.rank → after.status = before.status ∨ before.status.rank < after.status.rank
  events : before.events ⊆ after.events
  webhookEventIds : before.webhookEventIds ⊆ after.webhookEventIds
  duplicates : before.duplicateRozoPaymentIds ⊆ after.duplicateRozoPaymentIds
  settling : ∀ order, before.settlingRozoPaymentId = some order → after.settlingRozoPaymentId = some order
  delivered : before.deliveredReported = true → after.deliveredReported = true
  attempts : before.deliveredReportAttempts ≤ after.deliveredReportAttempts
  stuck : before.alertedStuck = true → after.alertedStuck = true
  manualReview : before.alertedManualReview = true → after.alertedManualReview = true
  deliveredGiveUp : before.alertedDeliveredGiveUp = true → after.alertedDeliveredGiveUp = true
  queryFailing : before.alertedQueryFailing = true → after.alertedQueryFailing = true

theorem Grows.refl (record : FulfillmentRecord) : Grows record record :=
  ⟨le_rfl, fun _ => .inl rfl, fun _ => id, fun _ => id, fun _ => id, fun _ => id, id, le_rfl, id, id, id, id⟩

theorem Grows.trans {first second third : FulfillmentRecord} (grows : Grows first second) (later : Grows second third) :
    Grows first third where
  rank := Nat.le_trans grows.rank later.rank
  status begun := by
    rcases later.status (Nat.le_trans begun grows.rank) with same | higher
    · rw [same]
      exact grows.status begun
    · exact .inr (Nat.lt_of_le_of_lt grows.rank higher)
  events _ member := later.events (grows.events member)
  webhookEventIds _ member := later.webhookEventIds (grows.webhookEventIds member)
  duplicates _ member := later.duplicates (grows.duplicates member)
  settling order settles := later.settling order (grows.settling order settles)
  delivered := later.delivered ∘ grows.delivered
  attempts := Nat.le_trans grows.attempts later.attempts
  stuck := later.stuck ∘ grows.stuck
  manualReview := later.manualReview ∘ grows.manualReview
  deliveredGiveUp := later.deliveredGiveUp ∘ grows.deliveredGiveUp
  queryFailing := later.queryFailing ∘ grows.queryFailing

/-- The status of the merged record: the stored one, or one that may replace it. -/
theorem keepStoredStatus_spec (stored next : FulfillmentStatus) :
    let status := if keepStoredStatus stored next then stored else next
    stored.rank ≤ status.rank ∧ (1 ≤ stored.rank → status = stored ∨ stored.rank < status.rank) := by
  dsimp only
  split
  next => exact ⟨le_rfl, fun _ => .inl rfl⟩
  next replaced =>
    simp only [keepStoredStatus, decide_eq_true_eq, not_or, not_and, not_lt] at replaced
    obtain ⟨notLower, notOther⟩ := replaced
    refine ⟨notLower, fun begun => ?_⟩
    by_cases same : next.rank = stored.rank
    · have equal : stored = next := not_not.mp (notOther same begun)
      exact .inl equal.symm
    · exact .inr (Nat.lt_of_le_of_ne notLower (Ne.symm same))

theorem mergeRecord_grows (mine : Tracked stored) (theirs : Tracked next) : Grows stored (mergeRecord (some stored) next) where
  rank := by
    have spec := (keepStoredStatus_spec stored.status next.status).1
    show _ ≤ (if _ then stored else next : FulfillmentRecord).status.rank
    rwa [apply_ite FulfillmentRecord.status]
  status begun := by
    have spec := (keepStoredStatus_spec stored.status next.status).2 begun
    show (if _ then stored else next : FulfillmentRecord).status = _ ∨
      _ < (if _ then stored else next : FulfillmentRecord).status.rank
    rwa [apply_ite FulfillmentRecord.status]
  events _ member := mem_mergeEvents.mpr (.inl member)
  webhookEventIds _ member := mem_unique.mpr (mem_append_left _ member)
  duplicates order member := by
    have paid := mem_payers_merge mine theirs next (.inl (mem_payers.mpr (.inr member)))
    rcases mem_payers.mp paid with settles | duplicate
    · -- It would have to be the settling order, which the stored record keeps apart.
      have settled : (stored.settlingRozoPaymentId <|> next.settlingRozoPaymentId) = some order := settles
      cases found : stored.settlingRozoPaymentId with
      | none => exact absurd member (by simp [mine.settled found])
      | some settling =>
        rw [found, some_or, some.injEq] at settled
        exact absurd member (settled ▸ mine.apart settling found)
    · exact duplicate
  settling order settles := by
    show (stored.settlingRozoPaymentId <|> next.settlingRozoPaymentId) = some order
    rw [settles, some_or]
  delivered reported := by
    show (stored.deliveredReported || next.deliveredReported) = true
    rw [reported, Bool.true_or]
  attempts := Nat.le_max_left _ _
  stuck alerted := by
    show (stored.alertedStuck || next.alertedStuck) = true
    rw [alerted, Bool.true_or]
  manualReview alerted := by
    show (stored.alertedManualReview || next.alertedManualReview) = true
    rw [alerted, Bool.true_or]
  deliveredGiveUp alerted := by
    show (stored.alertedDeliveredGiveUp || next.alertedDeliveredGiveUp) = true
    rw [alerted, Bool.true_or]
  queryFailing alerted := by
    show (stored.alertedQueryFailing || next.alertedQueryFailing) = true
    rw [alerted, Bool.true_or]

/-! ## Saves from stale copies -/

/-- A stored record from before its settling order was kept. -/
structure LegacyRecord where
  record : FulfillmentRecord
  unsettled : record.settlingRozoPaymentId = none
  alone : record.duplicateRozoPaymentIds = []

theorem LegacyRecord.tracked (legacy : LegacyRecord) : Tracked legacy.record where
  settled _ := legacy.alone
  named := by simp [legacy.unsettled]
  apart settling settles := nomatch legacy.unsettled.symm.trans settles

/-- What a caller does to its copy besides following a payment: any change of the status, the events and the marks. -/
structure Edit where
  apply : FulfillmentRecord → FulfillmentRecord
  settling : ∀ record, (apply record).settlingRozoPaymentId = record.settlingRozoPaymentId
  duplicates : ∀ record, (apply record).duplicateRozoPaymentIds = record.duplicateRozoPaymentIds

/-- One guarded save. -/
structure Save where
  copy : FulfillmentRecord
  incoming : Option String
  settles : Bool
  locked : Bool
  edit : Edit

/-- What the save hands over. -/
def Save.handed (save : Save) : FulfillmentRecord :=
  save.edit.apply (trackSettlingOrder save.copy save.incoming save.settles save.locked).2

/-- The record of a link, and who has seen what of it. -/
structure Link where
  stored : Option FulfillmentRecord
  /-- Every record that somebody read, made or wrote, and may still take for the stored one. -/
  copies : List FulfillmentRecord
  /-- The orders that were tracked as settling and saved. -/
  settled : List String

def Link.start (plId : String) (legacy : Option LegacyRecord) : Link where
  stored := legacy.map LegacyRecord.record
  copies := emptyRecord plId :: (legacy.map LegacyRecord.record).toList
  settled := []

/-- `saveRecordGuarded`, its read and its write in one. -/
def Link.save (link : Link) (save : Save) : Link where
  stored := some (mergeRecord link.stored save.handed)
  copies := mergeRecord link.stored save.handed :: save.handed :: link.copies
  settled := (if save.settles then (truthy save.incoming).toList else []) ++ link.settled

/-- Somebody saves from a copy, however old. -/
def SaveStep (before after : Link) : Prop := ∃ save : Save, save.copy ∈ before.copies ∧ after = before.save save

abbrev Saves : Link → Link → Prop := Relation.ReflTransGen SaveStep

/-- Every copy is tracked, and the stored record knows every order that was tracked. -/
structure Known (link : Link) : Prop where
  copies : ∀ copy ∈ link.copies, Tracked copy
  stored : ∀ record, link.stored = some record → Tracked record
  settled : ∀ order ∈ link.settled, ∃ record, link.stored = some record ∧ order ∈ record.payers

theorem known_start (plId : String) (legacy : Option LegacyRecord) : Known (Link.start plId legacy) := by
  have tracked (record : FulfillmentRecord) (found : legacy.map LegacyRecord.record = some record) : Tracked record := by
    obtain ⟨old, _, rfl⟩ := map_eq_some_iff.mp found
    exact old.tracked
  constructor
  · intro copy member
    rcases mem_cons.mp member with rfl | read
    · exact ⟨fun _ => rfl, fun impossible => (nomatch impossible), fun _ impossible => (nomatch impossible)⟩
    · exact tracked copy (mem_toList.mp read)
  · exact tracked
  · exact fun _ impossible => absurd impossible not_mem_nil

theorem Save.handed_payers (save : Save) :
    save.handed.payers = (trackSettlingOrder save.copy save.incoming save.settles save.locked).2.payers := by
  simp only [FulfillmentRecord.payers, Save.handed, save.edit.settling, save.edit.duplicates]

theorem Save.handed_tracked (save : Save) (tracked : Tracked save.copy) : Tracked save.handed := by
  have followed := (trackSettlingOrder_tracked tracked save.incoming save.settles save.locked).1
  constructor
  · rw [Save.handed, save.edit.settling, save.edit.duplicates]
    exact followed.settled
  · rw [Save.handed, save.edit.settling]
    exact followed.named
  · rw [Save.handed, save.edit.settling, save.edit.duplicates]
    exact followed.apart

theorem mergeRecord_knows {stored : Option FulfillmentRecord} (mine : ∀ record, stored = some record → Tracked record)
    (theirs : Tracked next) : Tracked (mergeRecord stored next) ∧
      ∀ order, (order ∈ next.payers ∨ ∃ record, stored = some record ∧ order ∈ record.payers) →
        order ∈ (mergeRecord stored next).payers := by
  cases stored with
  | none =>
    refine ⟨theirs, fun order paid => ?_⟩
    rcases paid with own | ⟨record, impossible, _⟩
    · exact own
    · cases impossible
  | some record =>
    have tracked := mine record rfl
    refine ⟨mergeSettlingTrack_tracked tracked theirs _, fun order paid => ?_⟩
    apply mem_payers_merge tracked theirs
    rcases paid with own | ⟨_, found, known⟩
    · exact .inr own
    · obtain rfl := some.inj found
      exact .inl known

theorem SaveStep.known {before after : Link} (step : SaveStep before after) (known : Known before) : Known after := by
  obtain ⟨save, member, rfl⟩ := step
  have copied := known.copies save.copy member
  obtain ⟨tracked, knows⟩ := mergeRecord_knows known.stored (save.handed_tracked copied)
  constructor
  · intro copy member
    rcases mem_cons.mp member with rfl | member
    · exact tracked
    · rcases mem_cons.mp member with rfl | old
      · exact save.handed_tracked copied
      · exact known.copies copy old
  · intro record written
    obtain rfl := some.inj written
    exact tracked
  · intro order settled
    refine ⟨_, rfl, knows order ?_⟩
    rcases mem_append.mp settled with new | old
    · -- The order that this save follows is a payer of the copy it hands over.
      left
      have settles : save.settles = true ∧ truthy save.incoming = some order := by
        cases flag : save.settles <;> simp [flag] at new ⊢
        exact new
      rw [save.handed_payers]
      exact (trackSettlingOrder_tracked copied save.incoming save.settles save.locked).2 order settles.1 settles.2
    · exact .inr (known.settled order old)

theorem SaveStep.grows {before after : Link} (step : SaveStep before after) (known : Known before)
    (stored : before.stored = some record) :
    ∃ later, after.stored = some later ∧ Grows record later := by
  obtain ⟨save, member, rfl⟩ := step
  refine ⟨_, rfl, ?_⟩
  rw [stored]
  exact mergeRecord_grows (known.stored record stored) (save.handed_tracked (known.copies save.copy member))

theorem Saves.known {before after : Link} (saves : Saves before after) (known : Known before) : Known after := by
  induction saves with
  | refl => exact known
  | tail _ step ih => exact step.known ih

theorem Saves.grows {before after : Link} (saves : Saves before after) (known : Known before)
    (stored : before.stored = some record) : ∃ later, after.stored = some later ∧ Grows record later := by
  induction saves with
  | refl => exact ⟨record, stored, .refl record⟩
  | tail sofar step ih =>
    obtain ⟨middle, found, grows⟩ := ih
    obtain ⟨later, written, more⟩ := step.grows (Saves.known sofar known) found
    exact ⟨later, written, grows.trans more⟩

/-- However stale the copies that are saved, progress, events, payers and marks are never lost, the settling order never
changes and is no duplicate, and every order tracked as settling is known for good. -/
theorem saves_lose_nothing (plId : String) (legacy : Option LegacyRecord) {before after : Link}
    (sofar : Saves (Link.start plId legacy) before) (later : Saves before after) :
    (∀ record, before.stored = some record → ∃ written, after.stored = some written ∧ Grows record written) ∧
    (∀ record, after.stored = some record → ∀ settling, record.settlingRozoPaymentId = some settling →
      settling ∉ record.duplicateRozoPaymentIds) ∧
    ∀ order ∈ after.settled, ∃ record, after.stored = some record ∧
      (record.settlingRozoPaymentId = some order ∨ order ∈ record.duplicateRozoPaymentIds) := by
  have middle := Saves.known sofar (known_start plId legacy)
  have known := Saves.known later middle
  refine ⟨fun record stored => Saves.grows later middle stored, fun record stored => (known.stored record stored).apart,
    fun order settled => ?_⟩
  obtain ⟨record, stored, paid⟩ := known.settled order settled
  exact ⟨record, stored, mem_payers.mp paid⟩

/-- A payment that settles, found by a copy of the empty record. -/
def adopts (order : String) : Save where
  copy := emptyRecord "pl_a"
  incoming := some order
  settles := true
  locked := false
  edit := ⟨fun record => { record with status := .paying }, fun _ => rfl, fun _ => rfl⟩

/-- Two orders are adopted at once, from the same copy. -/
theorem saves_lose_nothing_raced :
    ∃ record, (((Link.start "pl_a" none).save (adopts "a")).save (adopts "b")).stored = some record ∧
      (record.settlingRozoPaymentId = some "b" ∨ "b" ∈ record.duplicateRozoPaymentIds) := by
  have first : SaveStep (Link.start "pl_a" none) ((Link.start "pl_a" none).save (adopts "a")) :=
    ⟨adopts "a", mem_cons_self, rfl⟩
  have second : SaveStep ((Link.start "pl_a" none).save (adopts "a"))
      (((Link.start "pl_a" none).save (adopts "a")).save (adopts "b")) :=
    ⟨adopts "b", mem_cons_of_mem _ (mem_cons_of_mem _ mem_cons_self), rfl⟩
  exact (saves_lose_nothing "pl_a" none (Relation.ReflTransGen.single first)
    (Relation.ReflTransGen.single second)).2.2 "b" (by decide)

end MppRouter.Routes.Coinbase
