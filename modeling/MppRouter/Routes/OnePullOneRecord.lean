import MppRouter.Routes.PullSearch

/-! # A pull is the evidence for one record

Of two sweeps that go by exclusion the snapshot of the later one shows the record of the earlier one, and what that
record's own payment fits keeps the check from passing. That leaves what no snapshot shows: a settlement tx that was
reported after it, and a session-bound path that looks at no other record.
-/

namespace MppRouter.Routes.Stripe.Onchain

open Concurrent Mpp Machine Protocol List

variable {sessionOf : String → String} {world after : World} {tid : ℕ} {choice : Choice}

/-! ## Two records and one pull -/

theorem reviewed_sibling {status : StripeRouterStatus} (settled : reviewed status = true) : status ∉ SIBLING_CANNOT_PULL := by
  cases status <;> first | decide | cases settled

variable {record : StripeFulfillmentRecord} {all : List Scanned}

variable {number amount : ℕ} {pull : String}

/-- A pull won by exclusion over a snapshot leaves no record of the same amount that it fits as well. -/
theorem Won.alone {second : StripeFulfillmentRecord} {noted count : ℕ} {key : String}
    (won : Won world record number amount pull all) (chained : world.Chained)
    (snapshot : Shows world count all) (distinct : key ≠ record.invoiceKey) (parked : world.parked key = some noted)
    (taken : noted ≤ count) (stored : world.records key = some second)
    (parsed : parseInvoiceAtomic second.invoiceAmountAtomic = some amount)
    (marked : (world.marks key).onchainVerifiedPull = some (toLowerCase pull))
    (unbound : ∀ other, Shown world other → other.record.invoiceKey = key →
      present other.marks.onchainVerifiedPull = false → boundSettlementTx other.record = none) :
    ¬world.Matches (second.rozoPaymentId.getD "") amount pull := by
  intro matched
  obtain ⟨other, listed, same, shown⟩ := snapshot.parked key noted parked taken
  obtain ⟨current, found, keeps⟩ := shown.stored
  rw [same, stored] at found
  cases found
  have sibling : Sibling record.invoiceKey amount other := by
    refine ⟨same ▸ distinct, ?_, reviewed_sibling shown.reviewable.settled⟩
    obtain ⟨locked, known⟩ := Option.isSome_iff_exists.mp shown.reviewable.amount
    rw [known, ← parsed, keeps.same.parsed known]
  have accounted := won.accounted other listed sibling
  unfold Accounted at accounted
  split_ifs at accounted with known
  · apply accounted
    rw [← snapshot.marks other listed known, same, marked]
    exact congrArg some (matched.lower chained)
  · have missing := accounted.2 (unbound other shown same (by simpa using known))
    rw [← keeps.same.payment shown.reviewable.payment] at missing
    exact World.not_matches_of_excludes missing matched

/-! ## A resolution -/

/-- What a sweep knows when it moves a record to paid. -/
structure Ready (sessionOf : String → String) (world : World) (key pull : String) (evidence : Evidence)
    (loaded : StripeFulfillmentRecord) (number amount : ℕ) : Prop where
  stored : ∃ record, world.records key = some record ∧ Keeps loaded record
  reviewable : Reviewable loaded
  keyed : loaded.invoiceKey = key
  parked : world.parked key = some number
  parsed : parseInvoiceAtomic loaded.invoiceAmountAtomic = some amount
  proof : match evidence with
    | .session => sessionOf pull = key
    | .exclusion all => boundSettlementTx loaded = none ∧ Won world loaded number amount pull all

variable {evidence : Evidence} {loaded : StripeFulfillmentRecord}

theorem Ready.grows {key : String}
    (ready : Ready sessionOf world key pull evidence loaded number amount) (grows : Grows world after)
    (chained : world.Chained) (now : after.Chained) : Ready sessionOf after key pull evidence loaded number amount := by
  obtain ⟨record, stored, keeps⟩ := ready.stored
  obtain ⟨next, found, later⟩ := grows.records key record stored
  refine ⟨⟨next, found, keeps.trans later⟩, ready.reviewable, ready.keyed, grows.parked _ _ ready.parked, ready.parsed, ?_⟩
  have proof := ready.proof
  cases evidence with
  | session => exact proof
  | exclusion all => exact ⟨proof.1, grows.won chained now (.refl loaded) ready.reviewable proof.2⟩

/-- A resolution is carried out on a record in manual review, or changes nothing. -/
theorem resolve_cases (args : ManualResolution) (record : StripeFulfillmentRecord) :
    (∃ outcome, resolveManualReview args record = .noop outcome ∧ ∀ status paidAt, outcome ≠ .resolved status paidAt) ∨
      record.status = .manualReview ∧ ∃ next status paidAt,
        resolveManualReview args record = .set next (.resolved status paidAt) := by
  unfold resolveManualReview
  split_ifs with repeated review
  · exact .inl ⟨_, rfl, nofun⟩
  · exact .inl ⟨_, rfl, nofun⟩
  · refine .inr ⟨not_not.mp review, ?_⟩
    dsimp only
    split
    · exact ⟨_, _, _, rfl⟩
    · exact ⟨_, _, _, rfl⟩

theorem pulled_iff {key : String} : world.pulled key pull = true ↔
    present (world.marks key).onchainVerifiedPull = true ∧
      (world.marks key).onchainVerifiedPull = some (toLowerCase pull) := by
  simp [World.pulled]

/-- What the conditions say of a record that is moved to paid. -/
theorem seen_of_careful {key : String} {now : ℕ}
    (careful : world.settlesSeen sessionOf (.resolve key pull evidence now) = true)
    (stored : world.records key = some record) (review : record.status = .manualReview) :
    world.pulled key pull = true ∧ ∀ other ∈ world.keys, other ≠ key → world.pulled other pull = true →
      world.sees sessionOf key pull other evidence = true := by
  simp only [World.settlesSeen, stored, Option.any_some, review, decide_true, Bool.not_true, Bool.false_or,
    Bool.and_eq_true, all_eq_true] at careful
  refine ⟨careful.1, fun other listed distinct pulled => ?_⟩
  simpa [distinct, pulled] using careful.2 other listed

/-- A record that pay-invoice reported the pull for is not passed by. -/
theorem Won.unreported {key : String}
    (won : Won world loaded number amount pull all) (chained : world.Chained) (distinct : key ≠ loaded.invoiceKey)
    (marked : (world.marks key).onchainVerifiedPull = some (toLowerCase pull)) :
    World.showsBound key pull (some amount) all = false := by
  by_contra shows
  simp only [World.showsBound, Bool.not_eq_false, any_eq_true, Bool.and_eq_true, decide_eq_true_eq] at shows
  obtain ⟨other, listed, ⟨⟨same, parsed⟩, able⟩, bound⟩ := shows
  have accounted := won.accounted other listed ⟨same ▸ distinct, parsed, able⟩
  obtain ⟨count, _, snapshot⟩ := won.seen
  unfold Accounted at accounted
  split_ifs at accounted with known
  · apply accounted
    rw [← snapshot.marks other listed known, same, marked]
    exact congrArg some (won.matched.lower chained)
  · exact accounted.1 bound

/-- No record that was attributed before carries the pull of a record that is moved to paid now. -/
theorem Ready.alone {key : String} {now : ℕ} (ready : Ready sessionOf world key pull evidence loaded number amount)
    (books : Books sessionOf world) (stored : world.records key = some record) (review : record.status = .manualReview)
    (careful : world.settlesSeen sessionOf (.resolve key pull evidence now) = true) {attribution : Attribution}
    (listed : attribution ∈ world.attributions) (same : attribution.txHash = pull) : attribution.invoiceKey = key := by
  by_contra distinct
  obtain ⟨earlier, noted, locked, proof⟩ := books.attributed attribution listed
  obtain ⟨current, found, keeps⟩ := ready.stored
  cases Option.some.inj (found.symm.trans stored)
  obtain ⟨own, others⟩ := seen_of_careful careful stored review
  have marked := proof.pull
  rw [same] at marked
  have seen := others _ (books.keyed _ earlier proof.stored).2 distinct (pulled_iff.mpr ⟨proof.marked, marked⟩)
  cases evidence with
  | session => cases seen
  | exclusion all =>
    obtain ⟨unbound, won⟩ := ready.proof
    have parsed := keeps.same.parsed ready.parsed
    have mine : world.amountOf key = some amount := by simp [World.amountOf, stored, parsed]
    have theirs : world.amountOf attribution.invoiceKey = some locked := by
      simp [World.amountOf, proof.stored, proof.parsed]
    simp only [World.sees, mine, theirs, Bool.and_eq_true, decide_eq_true_eq, Option.some.injEq, Bool.or_eq_true] at seen
    obtain ⟨rfl, owner⟩ := seen
    have evidence := proof.evidence
    cases how : attribution.evidence with
    | session =>
      rw [how] at evidence
      have shows : World.showsBound attribution.invoiceKey pull (some locked) all = true := by
        rcases owner with other | shows
        · exact absurd (same ▸ evidence) (by simpa using other)
        · exact shows
      rw [won.unreported books.chained (ready.keyed ▸ distinct) marked] at shows
      cases shows
    | exclusion all' =>
      rw [how, same] at evidence
      obtain ⟨count, taken, snapshot⟩ := won.seen
      obtain ⟨count', taken', snapshot'⟩ := evidence.seen
      -- Whichever snapshot is the later one shows the other record.
      by_cases order : noted ≤ count
      · refine won.alone books.chained snapshot (ready.keyed ▸ distinct) proof.parked order proof.stored proof.parsed
          marked ?_ evidence.matched
        intro other shown who unmarked
        exact shown.unbound unmarked attribution listed who.symm all' how
      · have earlierKey := (books.keyed _ earlier proof.stored).1
        refine evidence.alone books.chained snapshot' (earlierKey ▸ Ne.symm distinct) ready.parked (by omega) stored parsed
          (pulled_iff.mp own).2 ?_ ?_
        · rintro other shown rfl _
          obtain ⟨record', found', kept⟩ := shown.stored
          cases Option.some.inj (found'.symm.trans stored)
          rw [boundSettlementTx, ← (kept.reviewing shown.reviewable.settled review).2,
            (keeps.reviewing ready.reviewable.settled review).2]
          exact unbound
        · rw [keeps.same.payment ready.reviewable.payment]
          exact won.matched

/-- A resolution that its sweep is ready for keeps the books. -/
theorem resolve_keeps {key : String} {now : ℕ} (ready : Ready sessionOf world key pull evidence loaded number amount)
    (books : Books sessionOf world)
    (careful : world.settlesSeen sessionOf (.resolve key pull evidence now) = true) :
    Books sessionOf (world.resolve key pull evidence now).2 ∧ Grows world (world.resolve key pull evidence now).2 := by
  obtain ⟨record, stored, keeps⟩ := ready.stored
  have listed : ∀ other, other ∈ world.keys ∨ other = key → other ∈ world.keys.insert key := by
    intro other
    rw [mem_insert_iff, or_comm]
    exact id
  have current : (world.records key).getD (emptyStripeRecord key) = record := by rw [stored, Option.getD_some]
  have decides := resolve_decides (resolutionOf pull evidence now) record
  simp only [World.resolve, current]
  rcases resolve_cases (resolutionOf pull evidence now) record with ⟨outcome, refused, unresolved⟩ | ⟨review, next, status, paidAt, decided⟩
  · rw [refused]
    cases outcome with
    | resolved status paidAt => exact absurd rfl (unresolved status paidAt)
    | noRecord | notManualReview status | alreadyResolved status paidAt =>
      exact (Touches.write rfl listed (.inl rfl)).plain books rfl
  · rw [decided] at decides
    obtain ⟨_, same, writes⟩ := decides
    cases same
    obtain ⟨own, _⟩ := seen_of_careful careful stored review
    have touches : Touches sessionOf world { world with
        stripe := { world.stripe with records := Function.update world.stripe.records key (some next) }
        keys := world.keys.insert key
        attributions := ⟨key, pull, evidence⟩ :: world.attributions } key := by
      refine Touches.write rfl listed (.inr ⟨next, rfl, ?_, fun tx unclosed bound => ?_⟩)
      · rw [current]
        exact writes.keeps
      · obtain ⟨before, kept⟩ := writes.unclosed unclosed
        rw [boundSettlementTx, kept] at bound
        exact books.reported key record tx stored before bound
    have grows := touches.grows (by
      intro attribution attributed
      rcases mem_cons.mp attributed with rfl | earlier
      · refine .inr ⟨record, stored, review, ?_⟩
        rintro all rfl
        rw [boundSettlementTx, (keeps.reviewing ready.reviewable.settled review).2]
        exact ready.proof.1
      · exact .inl earlier)
    rw [decided]
    refine ⟨touches.books books grows ?_ ?_, grows⟩
    · intro attribution attributed
      rcases mem_cons.mp attributed with rfl | earlier
      · have chained := touches.chained books.chained
        have later := ready.grows grows books.chained chained
        refine ⟨next, number, amount, Function.update_self .., (pulled_iff.mp own).1, (pulled_iff.mp own).2, later.parked, ?_, ?_⟩
        · exact (keeps.trans writes.keeps).same.parsed ready.parsed
        · have proof := ready.proof
          cases evidence with
          | session => exact proof
          | exclusion all =>
            exact grows.won books.chained chained (keeps.trans writes.keeps) ready.reviewable proof.2
      · exact books.still_attributed grows (touches.chained books.chained) earlier
    · intro first listed₁ second listed₂ same
      rcases mem_cons.mp listed₁ with rfl | earlier₁
      · rcases mem_cons.mp listed₂ with rfl | earlier₂
        · rfl
        · exact (ready.alone books stored review careful earlier₂ same.symm).symm
      · rcases mem_cons.mp listed₂ with rfl | earlier₂
        · exact ready.alone books stored review careful earlier₁ same
        · exact books.single first earlier₁ second earlier₂ same

/-! ## A sweep -/

/-- What a sweep knows of a record that its snapshot found in manual review. -/
structure Loaded (world : World) (key : String) (loaded : StripeFulfillmentRecord) (number count : ℕ)
    (all : List Scanned) : Prop where
  stored : ∃ record, world.records key = some record ∧ Keeps loaded record
  parked : world.parked key = some number
  snapshot : Shows world count all

theorem loaded_lasts (key : String) (loaded : StripeFulfillmentRecord) (number count : ℕ) (all : List Scanned) :
    Lasts sessionOf fun world => Loaded world key loaded number count all := by
  intro world after inv kept grows known
  obtain ⟨record, stored, keeps⟩ := known.stored
  obtain ⟨next, now, later⟩ := grows.records key record stored
  exact ⟨⟨next, now, keeps.trans later⟩, grows.parked _ _ known.parked, grows.shows known.snapshot⟩

theorem ready_lasts (key pull : String) (evidence : Evidence) (loaded : StripeFulfillmentRecord) (number amount : ℕ) :
    Lasts sessionOf fun world => Ready sessionOf world key pull evidence loaded number amount :=
  fun _ _ inv kept grows ready => ready.grows grows inv.chained kept.chained

theorem matches_lasts (rozoId pull : String) (amount : ℕ) :
    Lasts sessionOf fun world => world.Matches rozoId amount pull :=
  fun _ _ inv kept grows matched => grows.matches inv.chained kept.chained matched

theorem siblingsAccountedFor_holds (parsed : parseInvoiceAtomic record.invoiceAmountAtomic = some amount) :
    (books sessionOf).Holds (Careful sessionOf) tid (siblingsAccountedFor record pull all).run (fun result after =>
      result = some true → ∀ other ∈ all, Sibling record.invoiceKey amount other → Accounted after amount pull other)
      world := by
  unfold siblingsAccountedFor
  rw [parsed]
  apply Holds.seq
  apply look_holds (fun world => world.find pull) (fun found => found) (fun _ _ => rfl) rfl (.const True) trivial
  · exact fun after => nofun
  · intro before kept _
    cases found : before.find pull with
    | none => exact nofun
    | some pullTx =>
      have lower : toLowerCase pullTx.hash = toLowerCase pull := by
        have same := World.find_lower (kept.chained pullTx (mem_of_find?_eq_some found))
        rw [← same]
        exact World.find_lower found
      apply Holds.mono _ (accountFor_holds lower found)
      intro result after accounted same other listed sibling
      exact accounted same other (mem_siblings.mpr ⟨listed, sibling⟩)

theorem evidenceFor_holds {key payoutTx : String} {count : ℕ}
    (reviewable : Reviewable loaded) (keyed : loaded.invoiceKey = key)
    (parsed : parseInvoiceAtomic loaded.invoiceAmountAtomic = some amount) (taken : number ≤ count)
    (reported : ∀ tx, boundSettlementTx loaded = some tx → sessionOf tx = key)
    (known : Loaded world key loaded number count all)
    (paid : world.payouts (loaded.rozoPaymentId.getD "") = some payoutTx) :
    (books sessionOf).Holds (Careful sessionOf) tid (evidenceFor loaded payoutTx all).run (fun result after =>
      ∀ pull evidence, result = some (some (pull, evidence)) →
        Ready sessionOf after key pull evidence loaded number amount) world := by
  unfold evidenceFor
  simp only [parsed, Option.getD_some]
  cases bound : boundSettlementTx loaded with
  | some tx =>
    apply Holds.seq
    apply Holds.mono _ (plain_known (verifyStripeRelayerPull_plain ..) (loaded_lasts key loaded number count all) known)
    intro result after known
    cases result with
    | none => exact fun _ _ => nofun
    | some verified =>
      cases verified with
      | false => exact fun _ _ => nofun
      | true =>
        rintro pull evidence same
        cases same
        exact ⟨known.stored, reviewable, keyed, known.parked, parsed, reported tx bound⟩
  | none =>
    apply Holds.seq
    have nothing : Mined [] world := fun tx listed => absurd listed not_mem_nil
    apply Holds.mono _ (framed ((loaded_lasts key loaded number count all).and
      (paid_lasts (loaded.rozoPaymentId.getD "") payoutTx)) ⟨known, paid⟩ (findStripeRelayerPull_holds nothing))
    rintro result after ⟨found, known, paid⟩
    cases result with
    | none => exact fun _ _ => nofun
    | some answer =>
      cases answer with
      | none => exact fun _ _ => nofun
      | some pull =>
        obtain ⟨payoutTx', pullTx, payout, there, fits, _⟩ := found pull rfl
        have matched : World.Matches after (loaded.rozoPaymentId.getD "") amount pull :=
          ⟨payoutTx, payoutTx', pullTx, paid, payout, there, fits⟩
        apply Holds.seq
        apply Holds.mono _ (framed ((loaded_lasts key loaded number count all).and
          (matches_lasts (loaded.rozoPaymentId.getD "") pull amount)) ⟨known, matched⟩
          (siblingsAccountedFor_holds parsed))
        rintro result final ⟨accounted, known, matched⟩
        cases result with
        | none => exact fun _ _ => nofun
        | some passed =>
          cases passed with
          | false => exact fun _ _ => nofun
          | true =>
            rintro pull evidence same
            cases same
            have won : Won final loaded number amount pull all :=
              ⟨matched, ⟨count, taken, known.snapshot⟩, accounted rfl⟩
            exact ⟨known.stored, reviewable, keyed, known.parked, parsed, bound, won⟩

theorem resolveFromChain_holds {key : String} {now : ℕ}
    (ready : Ready sessionOf world key pull evidence loaded number amount) :
    (books sessionOf).Holds (Careful sessionOf) tid (resolveFromChain key pull evidence now).run anyhow world := by
  unfold resolveFromChain
  apply Holds.seq
  apply call_holds rfl (ready_lasts key pull evidence loaded number amount) ready
  intro before choice answer after _ _ _ _ ready
  cases answer with
  | none => trivial
  | some scanned =>
    cases scanned with
    | none => trivial
    | some scanned =>
      apply Holds.seq
      apply Holds.step _ (ready_lasts key pull evidence loaded number amount).stable ready
      intro before inv ready choice answer after careful performed
      obtain ⟨kept, grows⟩ := fault_keeps inv (Option.some.inj performed) (resolve_keeps ready inv careful.2.2)
      refine ⟨kept, grows, ?_⟩
      cases answer <;> trivial

theorem review_of_checkable
    (checkable : (onchainUncheckableReason record).isNone = true) : record.status = .manualReview := by
  by_contra other
  rw [onchainUncheckableReason, if_pos other] at checkable
  cases checkable

theorem settleManualReviewFromChain_holds {key : String} {now count : ℕ}
    (parked : world.parked key = some number) (taken : number ≤ count) (snapshot : Shows world count all) :
    (books sessionOf).Holds (Careful sessionOf) tid (settleManualReviewFromChain key now all).run anyhow
      world := by
  unfold settleManualReviewFromChain
  have lasts : Lasts sessionOf fun world => world.parked key = some number ∧ Shows world count all :=
    fun _ _ _ _ grows known => ⟨grows.parked _ _ known.1, grows.shows known.2⟩
  apply Holds.seq
  apply look_holds (fun world => world.scanned key) (fun found => found) (fun _ _ => rfl) rfl lasts ⟨parked, snapshot⟩
  · exact fun _ => trivial
  · rintro before inv ⟨parked, snapshot⟩
    cases stored : before.records key with
    | none =>
      simp only [World.scanned, stored]
      trivial
    | some loaded =>
      simp only [World.scanned, stored, Option.map_some]
      split_ifs with uncheckable
      · trivial
      · have checkable : (onchainUncheckableReason loaded).isNone = true := by simpa using uncheckable
        have reviewable := Reviewable.of_checkable checkable
        obtain ⟨amount, parsed⟩ := Option.isSome_iff_exists.mp reviewable.amount
        have reported : ∀ tx, boundSettlementTx loaded = some tx → sessionOf tx = key := fun tx =>
          inv.reported key loaded tx stored (by rw [review_of_checkable checkable]; rfl)
        have known : Loaded before key loaded number count all := ⟨⟨loaded, stored, .refl loaded⟩, parked, snapshot⟩
        apply Holds.seq
        apply call_holds rfl (loaded_lasts key loaded number count all) known
        intro _ choice answer before _ _ _ _ known
        cases answer with
        | none => trivial
        | some claimed =>
          cases claimed with
          | false => trivial
          | true =>
            apply Holds.seq
            apply fetchPayment_holds (loaded_lasts key loaded number count all) known
            · exact fun _ => trivial
            · intro payoutTx before paid known
              apply Holds.seq
              apply Holds.mono _ (evidenceFor_holds reviewable (inv.keyed key loaded stored).1 parsed taken reported
                known paid)
              intro result after proved
              cases result with
              | none => trivial
              | some answer =>
                cases answer with
                | none => trivial
                | some proof =>
                  have ready := proved proof.1 proof.2 rfl
                  apply Holds.seq
                  apply Holds.mono _ (plain_known (rememberVerifiedPull_plain ..) (ready_lasts key proof.1 proof.2 loaded number
                    amount) ready)
                  intro result final ready
                  cases result with
                  | none => trivial
                  | some done => exact resolveFromChain_holds ready

/-- The records that a sweep goes through are parked by its snapshot. -/
def Parks (world : World) (count : ℕ) (parked : List Scanned) : Prop :=
  ∀ scanned ∈ parked, ∃ number ≤ count, world.parked scanned.record.invoiceKey = some number

theorem settleEach_holds {now count : ℕ} {parked : List Scanned} (parks : Parks world count parked)
    (snapshot : Shows world count all) :
    (books sessionOf).Holds (Careful sessionOf) tid (settleEach now all parked).run anyhow world := by
  induction parked generalizing world with
  | nil => trivial
  | cons scanned rest ih =>
    obtain ⟨number, taken, noted⟩ := parks scanned mem_cons_self
    have lasts : Lasts sessionOf fun world => Parks world count rest ∧ Shows world count all := by
      intro world after _ _ grows known
      refine ⟨fun other listed => ?_, grows.shows known.2⟩
      obtain ⟨number, taken, noted⟩ := known.1 other listed
      exact ⟨number, taken, grows.parked _ _ noted⟩
    unfold settleEach
    apply Holds.seq
    apply Holds.attempt
    have later : Parks world count rest := fun other listed => parks other (mem_cons_of_mem scanned listed)
    apply Holds.mono _ (framed lasts ⟨later, snapshot⟩ (settleManualReviewFromChain_holds noted taken snapshot))
    rintro result after ⟨_, parks, snapshot⟩
    exact ih parks snapshot

/-- A snapshot parks what it finds in manual review. -/
theorem scan_parks (books : Books sessionOf world) (keys : List String) :
    Parks (world.scan keys).2 (world.scans + 1) (parkedRecords (world.scan keys).1) := by
  intro scanned listed
  have among := (mem_insertionSort _).mp (mem_of_mem_take listed)
  obtain ⟨found, checkable⟩ := mem_filter.mp among
  have stored := (mem_scan books found).1
  have noted : (world.scan keys).2.parked scanned.record.invoiceKey = some ((world.parked scanned.record.invoiceKey).getD
      (world.scans + 1)) := by
    cases before : world.parked scanned.record.invoiceKey with
    | some number => simp [World.scan, before]
    | none => simpa [World.scan, before, stored] using checkable
  exact ⟨_, ((scan_keeps books keys).1.parked _ _ noted).1, noted⟩

theorem sweepManualReviewOnchain_holds {now : ℕ} :
    (books sessionOf).Holds (Careful sessionOf) tid (sweepManualReviewOnchain now).run anyhow world := by
  apply Holds.seq
  apply Holds.attempt
  apply Holds.step (fun _ => True) (Lasts.const True).stable trivial
  intro before inv _ choice answer after careful performed
  obtain ⟨kept, grows⟩ := step_keeps rfl inv careful performed
  refine ⟨kept, grows, ?_⟩
  simp only [perform] at performed
  split_ifs at performed with listed
  rcases Fault.apply_cases (Option.some.inj performed) with ⟨rfl, _⟩ | ⟨rfl, answered⟩
  · trivial
  · cases answer with
    | none => trivial
    | some all =>
      have same := answered all rfl
      subst same
      exact settleEach_holds (scan_parks inv choice.keys) (scan_shows inv listed)

/-! ## Runs -/

theorem history_plain (events : List ChainEvent) : (history events).Performs fun action => action.resolves = false := by
  induction events with
  | nil => trivial
  | cons event events ih =>
    cases event with
    | mine tx => exact ⟨rfl, fun _ => ih⟩
    | payOut rozoId txHash => exact ⟨rfl, fun _ => ih⟩

theorem party_holds (party : Party) :
    (books sessionOf).Holds (Careful sessionOf) tid party.program anyhow world := by
  cases party with
  | router request =>
    apply plain_holds
    apply Prog.Performs.embed _ (Prog.Performs.always request.serve)
    exact fun _ _ => rfl
  | sweep now => exact Holds.bind sweepManualReviewOnchain_holds.loose
  | chain events => exact plain_holds (history_plain events)

theorem fresh_books (caps : DailySpendLedger → Option ℤ) : Books sessionOf (World.fresh caps) where
  chained _ mined := absurd mined not_mem_nil
  keyed _ _ stored := nomatch stored
  reported _ _ _ stored := nomatch stored
  parked _ _ noted := nomatch noted
  attributed _ listed := absurd listed not_mem_nil
  single _ listed := absurd listed not_mem_nil

/-- No pull is the evidence for two records, as long as no other record with the pull goes unseen when one is moved to
paid. -/
theorem pull_closes_one_record (sessionOf : String → String) (caps : DailySpendLedger → Option ℤ) (parties : ℕ → Party)
    {after : onchainMachine.Config} (run : Run (Careful sessionOf) (reviewing caps parties) after) :
    after.world.OneToOne := by
  have checked : (books sessionOf).Checked (Careful sessionOf) (reviewing caps parties) :=
    ⟨fresh_books caps, fun tid => party_holds (parties tid)⟩
  exact (sound checked run).1.single

/-! ## A snapshot that is too old -/

def firstPayout : String := "0xaaaaaaaaaaaaaaaaaaaaaaaaaaaaaaaaaaaaaaaaaaaaaaaaaaaaaaaaaaaaaaaa"
def secondPayout : String := "0xbbbbbbbbbbbbbbbbbbbbbbbbbbbbbbbbbbbbbbbbbbbbbbbbbbbbbbbbbbbbbbbb"
def onePull : String := "0xcccccccccccccccccccccccccccccccccccccccccccccccccccccccccccccccc"
def nextPull : String := "0xdddddddddddddddddddddddddddddddddddddddddddddddddddddddddddddddd"

/-- Two invoices of the same amount, funded by different payouts, and two pulls. -/
def twoOfHundred : ℕ → Party
  | 0 => .router (.webhook ⟨"first", ⟨"e1", "payment_payout_completed", some "rozo1"⟩, 0⟩)
  | 1 => .router (.seed "first" seedOfHundred 0)
  | 2 => .router (.seed "second" seedOfHundred 0)
  | 3 => .sweep 1000
  | 4 => .router (.webhook ⟨"second", ⟨"e2", "payment_payout_completed", some "rozo2"⟩, 1000⟩)
  | 5 => .chain [.payOut "rozo1" firstPayout,
      .mine ⟨firstPayout, 10, true, "intents", "usdc", [⟨0, "intents", "funder", 100⟩]⟩, .payOut "rozo2" secondPayout,
      .mine ⟨secondPayout, 11, true, "intents", "usdc", [⟨0, "intents", "funder", 110⟩]⟩,
      .mine ⟨onePull, 15, true, STRIPE_RELAYER, STRIPE_PAYIN_CONTRACT, [⟨0, "funder", "stripe", 100⟩]⟩,
      .mine ⟨nextPull, 16, true, STRIPE_RELAYER, STRIPE_PAYIN_CONTRACT, [⟨0, "funder", "stripe", 100⟩]⟩]
  | 6 => .router (.reconcile "second" 100000 0)
  | 7 => .router (.reconcile "second" 200000 0)
  | 8 => .router (.reconcile "second" 300000 0)
  | _ => .sweep 400000

/-- Pay-invoice reports a pull for the second session only. -/
def ownerOf (tx : String) : String := if tx = onePull ∨ tx = nextPull then "second" else ""

def again (tid times : ℕ) : List (ℕ × Choice) := List.replicate times (tid, {})

def everyRecord (tid : ℕ) : List (ℕ × Choice) := [(tid, { keys := ["first", "second"] })]

/-- The first record goes to manual review; a sweep takes its snapshot before the second is paid out. -/
def opened : List (ℕ × Choice) := again 0 1 ++ again 1 1 ++ again 2 1 ++ everyRecord 3

def reported (pull : String) : List (ℕ × Choice) :=
  [(4, { pay := .answered 200 (some { blockchainTxId := some pull }) }), (4, {})]

/-- The second record is settled, the chain grows, and the sweep goes on with its snapshot. -/
def staleSnapshot (pull : String) : List (ℕ × Choice) :=
  opened ++ settleSteps 4 ++ reported pull ++ again 5 5 ++ again 3 23

/-- Stripe no longer knows the session of the second record. -/
def gone (tid : ℕ) : List (ℕ × Choice) := [(tid, {}), (tid, {}), (tid, { reply := .failed "stripe_expired" }), (tid, {})]

def reviewedAgain : List (ℕ × Choice) := gone 6 ++ gone 7 ++ gone 8 ++ everyRecord 9 ++ again 9 9

def attributed (world : World) : List (String × String) :=
  world.attributions.map fun attribution => (attribution.invoiceKey, attribution.txHash)

/-- The search closes the first record, and a later pull that pay-invoice reported closes the second. -/
theorem pull_closes_one_record_both : ∃ after, Run (Careful ownerOf) (reviewing (capOf 1000) twoOfHundred) after ∧
    attributed after.world = [("second", nextPull), ("first", onePull)] ∧ after.world.OneToOne := by
  obtain ⟨after, run, found⟩ := Config.exec_reaches (Careful ownerOf) (reviewing (capOf 1000) twoOfHundred)
    (staleSnapshot nextPull ++ again 5 1 ++ reviewedAgain)
    (fun world => attributed world = [("second", nextPull), ("first", onePull)]) (by decide +kernel)
  exact ⟨after, run, of_decide_eq_true found, pull_closes_one_record ownerOf (capOf 1000) twoOfHundred run⟩

/-- The search takes the pull of the second record for the first, and the session-bound path takes it again. -/
theorem one_pull_two_records : ¬∀ (sessionOf : String → String) (caps : DailySpendLedger → Option ℤ)
    (parties : ℕ → Party) (after : onchainMachine.Config), Run (Reports sessionOf) (reviewing caps parties) after →
      after.world.OneToOne := by
  intro claim
  obtain ⟨after, run, found⟩ := Config.exec_reaches (Reports ownerOf) (reviewing (capOf 1000) twoOfHundred)
    (staleSnapshot onePull ++ reviewedAgain)
    (fun world => attributed world = [("second", onePull), ("first", onePull)]) (by decide +kernel)
  have single := claim ownerOf (capOf 1000) twoOfHundred after run
  have both : attributed after.world = [("second", onePull), ("first", onePull)] := of_decide_eq_true found
  have listed (key : String) (among : (key, onePull) ∈ attributed after.world) :
      ∃ attribution ∈ after.world.attributions, attribution.invoiceKey = key ∧ attribution.txHash = onePull := by
    obtain ⟨attribution, listed, same⟩ := mem_map.mp among
    exact ⟨attribution, listed, congrArg Prod.fst same, congrArg Prod.snd same⟩
  obtain ⟨second, listed₂, key₂, pull₂⟩ := listed "second" (by rw [both]; exact mem_cons_self)
  obtain ⟨first, listed₁, key₁, pull₁⟩ := listed "first" (by rw [both]; exact mem_cons_of_mem _ mem_cons_self)
  have same := single first listed₁ second listed₂ (pull₁.trans pull₂.symm)
  rw [key₁, key₂] at same
  exact absurd same (by decide)

end MppRouter.Routes.Stripe.Onchain
