import MppRouter.Routes.ReviewRecords

/-! # The books of the sweeps

The chain only grows, the first verified pull of a record stays, and a record under review keeps its session, amount and
payment. So whatever a sweep read of them still holds when it acts on it, and a snapshot shows every record that was
parked before it was taken.
-/

namespace MppRouter.Routes.Stripe.Onchain

open Concurrent Mpp Machine Option

/-! ## The chain -/

/-- A transaction pulls the amount from the funder in the window of a payout. -/
structure Pulls (payout : Payout) (amount : ℕ) (tx : Transaction) : Prop where
  relayed : tx.relayed = true
  later : payout.start ≤ tx.block
  window : tx.block ≤ payout.start + STRIPE_PULL_WINDOW_BLOCKS
  moved : ∃ log ∈ tx.logs, log.transfer.sender = payout.funder ∧ payout.shows amount log = true

def Fits (payoutTx pullTx : Transaction) (amount : ℕ) : Prop := ∃ payout, payoutOf payoutTx = some payout ∧
  Pulls payout amount pullTx

namespace World

variable (world : World)

/-- Every transaction is found by its hash. -/
def Chained : Prop := ∀ tx ∈ world.chain, world.find tx.hash = some tx

/-- The chain shows a pull that fits a payment. -/
def Matches (rozoId : String) (amount : ℕ) (pull : String) : Prop :=
  ∃ hash payoutTx pullTx, world.payouts rozoId = some hash ∧ world.find hash = some payoutTx ∧
    world.find pull = some pullTx ∧ Fits payoutTx pullTx amount

/-- The chain shows that a pull does not fit a payment. -/
def Excludes (rozoId : String) (amount : ℕ) (pull : String) : Prop :=
  ∃ hash payoutTx pullTx, world.payouts rozoId = some hash ∧ world.find hash = some payoutTx ∧
    world.find pull = some pullTx ∧ ¬Fits payoutTx pullTx amount

variable {world}

theorem find_lower {hash : String} {tx : Transaction} (found : world.find hash = some tx) : tx.hash = toLowerCase hash := by
  have same := List.find?_some found
  exact of_decide_eq_true same

theorem Chained.found_iff (chained : world.Chained) {hash : String} {tx : Transaction} :
    world.find hash = some tx ↔ tx ∈ world.chain ∧ tx.hash = toLowerCase hash := by
  constructor
  · intro found
    exact ⟨List.mem_of_find?_eq_some found, find_lower found⟩
  · rintro ⟨mined, same⟩
    have found := chained tx mined
    have lower := find_lower found
    unfold find at found ⊢
    rw [← same, lower]
    exact found

theorem not_matches_of_excludes {rozoId pull : String} {amount : ℕ} (excluded : world.Excludes rozoId amount pull) :
    ¬world.Matches rozoId amount pull := by
  rintro ⟨hash, payoutTx, pullTx, paid, payout, found, fits⟩
  obtain ⟨hash', payoutTx', pullTx', paid', payout', found', misfits⟩ := excluded
  cases some.inj (paid.symm.trans paid')
  cases some.inj (payout.symm.trans payout')
  cases some.inj (found.symm.trans found')
  exact misfits fits

theorem Matches.lower {rozoId pull : String} {amount : ℕ} (matched : world.Matches rozoId amount pull)
    (chained : world.Chained) : toLowerCase (toLowerCase pull) = toLowerCase pull := by
  obtain ⟨_, _, pullTx, _, _, found, _⟩ := matched
  have same := find_lower found
  have lower := find_lower (chained pullTx (List.mem_of_find?_eq_some found))
  rw [← same]
  exact lower.symm

end World

/-! ## What the books guarantee -/

/-- A step on the books: what was there stays, and what is attributed was in manual review until then. -/
structure Grows (world after : World) : Prop where
  chain : ∀ tx ∈ world.chain, tx ∈ after.chain
  payouts : ∀ rozoId hash, world.payouts rozoId = some hash → after.payouts rozoId = some hash
  marks : ∀ key, present (world.marks key).onchainVerifiedPull = true →
    (after.marks key).onchainVerifiedPull = (world.marks key).onchainVerifiedPull
  records : ∀ key record, world.records key = some record → ∃ next, after.records key = some next ∧ Keeps record next
  scans : world.scans ≤ after.scans
  parked : ∀ key number, world.parked key = some number → after.parked key = some number
  unparked : ∀ key number, after.parked key = some number → world.parked key = some number ∨ world.scans < number
  attributed : ∀ attribution ∈ after.attributions, attribution ∈ world.attributions ∨
    ∃ record, world.records attribution.invoiceKey = some record ∧ record.status = .manualReview ∧
      ∀ all, attribution.evidence = .exclusion all → boundSettlementTx record = none

theorem Grows.refl (world : World) : Grows world world where
  chain _ mined := mined
  payouts _ _ paid := paid
  marks _ _ := rfl
  records _ record stored := ⟨record, stored, .refl record⟩
  scans := le_rfl
  parked _ _ parked := parked
  unparked _ _ parked := .inl parked
  attributed _ listed := .inl listed

theorem Grows.found {world after : World} (grows : Grows world after) (chained : world.Chained) (now : after.Chained)
    {hash : String} {tx : Transaction} (found : world.find hash = some tx) : after.find hash = some tx := by
  obtain ⟨mined, same⟩ := chained.found_iff.mp found
  exact now.found_iff.mpr ⟨grows.chain tx mined, same⟩

variable {amount : ℕ}

theorem Grows.matches {world after : World} (grows : Grows world after) (chained : world.Chained) (now : after.Chained)
    {rozoId pull : String} (matched : world.Matches rozoId amount pull) :
    after.Matches rozoId amount pull := by
  obtain ⟨hash, payoutTx, pullTx, paid, payout, found, fits⟩ := matched
  exact ⟨hash, payoutTx, pullTx, grows.payouts _ _ paid, grows.found chained now payout, grows.found chained now found, fits⟩

theorem Grows.excludes {world after : World} (grows : Grows world after) (chained : world.Chained) (now : after.Chained)
    {rozoId pull : String} (excluded : world.Excludes rozoId amount pull) :
    after.Excludes rozoId amount pull := by
  obtain ⟨hash, payoutTx, pullTx, paid, payout, found, misfits⟩ := excluded
  exact ⟨hash, payoutTx, pullTx, grows.payouts _ _ paid, grows.found chained now payout, grows.found chained now found,
    misfits⟩

/-! ## Snapshots -/

/-- A snapshot shows a record in all that a check reads of it. -/
structure Shown (world : World) (other : Scanned) : Prop where
  stored : ∃ record, world.records other.record.invoiceKey = some record ∧ Keeps other.record record
  reviewable : Reviewable other.record
  /-- What is attributed by exclusion later was not bound. -/
  unbound : present other.marks.onchainVerifiedPull = false → ∀ attribution ∈ world.attributions,
    attribution.invoiceKey = other.record.invoiceKey → ∀ all, attribution.evidence = .exclusion all →
      boundSettlementTx other.record = none

/-- A snapshot shows every record that was parked when it was taken. -/
structure Shows (world : World) (count : ℕ) (all : List Scanned) : Prop where
  taken : count ≤ world.scans
  marks : ∀ other ∈ all, present other.marks.onchainVerifiedPull = true →
    (world.marks other.record.invoiceKey).onchainVerifiedPull = other.marks.onchainVerifiedPull
  parked : ∀ key number, world.parked key = some number → number ≤ count →
    ∃ other ∈ all, other.record.invoiceKey = key ∧ Shown world other

theorem Grows.shown {world after : World} (grows : Grows world after) {other : Scanned} (shown : Shown world other) :
    Shown after other := by
  obtain ⟨record, stored, keeps⟩ := shown.stored
  constructor
  · obtain ⟨next, now, later⟩ := grows.records _ record stored
    exact ⟨next, now, keeps.trans later⟩
  · exact shown.reviewable
  · intro unmarked attribution listed same all excluded
    rcases grows.attributed attribution listed with before | ⟨current, found, review, unbound⟩
    · exact shown.unbound unmarked attribution before same all excluded
    · rw [same, stored] at found
      cases found
      have kept := (keeps.reviewing shown.reviewable.settled review).2
      rw [boundSettlementTx, ← kept]
      exact unbound all excluded

variable {all : List Scanned}

theorem Grows.shows {world after : World} (grows : Grows world after) {count : ℕ}
    (snapshot : Shows world count all) : Shows after count all := by
  constructor
  · exact snapshot.taken.trans grows.scans
  · intro other listed marked
    have kept := snapshot.marks other listed marked
    rw [← kept] at marked ⊢
    exact grows.marks _ marked
  · intro key number parked taken
    rcases grows.unparked key number parked with before | later
    · obtain ⟨other, listed, same, shown⟩ := snapshot.parked key number before taken
      exact ⟨other, listed, same, grows.shown shown⟩
    · have := snapshot.taken
      omega

/-! ## The books -/

/-- Another record of the snapshot that could have produced a pull. -/
def Sibling (invoiceKey : String) (amount : ℕ) (other : Scanned) : Prop :=
  other.record.invoiceKey ≠ invoiceKey ∧ parseInvoiceAtomic other.record.invoiceAmountAtomic = some amount ∧
    other.record.status ∉ SIBLING_CANNOT_PULL

variable {record : StripeFulfillmentRecord}

theorem mem_siblings {other : Scanned} :
    other ∈ siblings record amount all ↔ other ∈ all ∧ Sibling record.invoiceKey amount other := by
  simp [siblings, Sibling, and_assoc]

/-- A record that a check accounted for: its mark names another pull, or the pull does not fit its payment. -/
def Accounted (world : World) (amount : ℕ) (pull : String) (other : Scanned) : Prop :=
  if present other.marks.onchainVerifiedPull = true then
    other.marks.onchainVerifiedPull.map toLowerCase ≠ some (toLowerCase pull)
  else boundSettlementTx other.record ≠ some (toLowerCase pull) ∧
    (boundSettlementTx other.record = none → world.Excludes (other.record.rozoPaymentId.getD "") amount pull)

/-- A pull found by exclusion: it fits the record, and every other record of the snapshot is accounted for. -/
structure Won (world : World) (record : StripeFulfillmentRecord) (number amount : ℕ) (pull : String)
    (all : List Scanned) : Prop where
  matched : world.Matches (record.rozoPaymentId.getD "") amount pull
  seen : ∃ count, number ≤ count ∧ Shows world count all
  accounted : ∀ other ∈ all, Sibling record.invoiceKey amount other → Accounted world amount pull other

/-- What stands behind an attribution. -/
structure Attributed (sessionOf : String → String) (world : World) (attribution : Attribution)
    (record : StripeFulfillmentRecord) (number amount : ℕ) : Prop where
  stored : world.records attribution.invoiceKey = some record
  marked : present (world.marks attribution.invoiceKey).onchainVerifiedPull = true
  pull : (world.marks attribution.invoiceKey).onchainVerifiedPull = some (toLowerCase attribution.txHash)
  parked : world.parked attribution.invoiceKey = some number
  parsed : parseInvoiceAtomic record.invoiceAmountAtomic = some amount
  evidence : match attribution.evidence with
    | .session => sessionOf attribution.txHash = attribution.invoiceKey
    | .exclusion all => Won world record number amount attribution.txHash all

structure Books (sessionOf : String → String) (world : World) : Prop where
  chained : world.Chained
  keyed : ∀ key record, world.records key = some record → record.invoiceKey = key ∧ key ∈ world.keys
  reported : ∀ key record tx, world.records key = some record → closed record.status = false →
    boundSettlementTx record = some tx → sessionOf tx = key
  parked : ∀ key number, world.parked key = some number → number ≤ world.scans ∧
    ∃ record, world.records key = some record ∧ Reviewable record
  attributed : ∀ attribution ∈ world.attributions, ∃ record number amount,
    Attributed sessionOf world attribution record number amount
  single : world.OneToOne

/-- The books of the sweeps: any step keeps them, and they only grow. -/
def books (sessionOf : String → String) : Protocol onchainMachine where
  Inv := Books sessionOf
  Guar _ world after := Grows world after

variable {sessionOf : String → String} {world after : World}

theorem Grows.accounted (grows : Grows world after) (chained : world.Chained) (now : after.Chained)
    {pull : String} {other : Scanned} (accounted : Accounted world amount pull other) :
    Accounted after amount pull other := by
  unfold Accounted at accounted ⊢
  split_ifs at accounted ⊢ with marked
  · exact accounted
  · exact ⟨accounted.1, fun unbound => grows.excludes chained now (accounted.2 unbound)⟩

theorem Grows.won (grows : Grows world after) (chained : world.Chained) (now : after.Chained)
    {next : StripeFulfillmentRecord} (keeps : Keeps record next) (reviewable : Reviewable record)
    {number : ℕ} {pull : String} (won : Won world record number amount pull all) :
    Won after next number amount pull all := by
  obtain ⟨count, before, snapshot⟩ := won.seen
  constructor
  · rw [keeps.same.payment reviewable.payment]
    exact grows.matches chained now won.matched
  · exact ⟨count, before, grows.shows snapshot⟩
  · intro other listed sibling
    rw [keeps.same.key] at sibling
    exact grows.accounted chained now (won.accounted other listed sibling)

theorem Books.still_attributed (books : Books sessionOf world) (grows : Grows world after) (now : after.Chained)
    {attribution : Attribution} (listed : attribution ∈ world.attributions) :
    ∃ record number amount, Attributed sessionOf after attribution record number amount := by
  obtain ⟨record, number, amount, attributed⟩ := books.attributed attribution listed
  obtain ⟨next, stored, keeps⟩ := grows.records _ record attributed.stored
  obtain ⟨_, current, found, reviewable⟩ := books.parked _ number attributed.parked
  cases some.inj (found.symm.trans attributed.stored)
  refine ⟨next, number, amount, stored, ?_, ?_, grows.parked _ _ attributed.parked, keeps.same.parsed attributed.parsed, ?_⟩
  · rw [grows.marks _ attributed.marked]
    exact attributed.marked
  · rw [grows.marks _ attributed.marked]
    exact attributed.pull
  · have evidence := attributed.evidence
    cases proof : attribution.evidence with
    | session =>
      rw [proof] at evidence
      exact evidence
    | exclusion all =>
      rw [proof] at evidence
      exact grows.won books.chained now keeps reviewable evidence

/-! ## Steps on one record -/

/-- What a step wrote under the key goes on with the record there, and a payment on it was made for the session. -/
abbrev World.Written (sessionOf : String → String) (world : World) (key : String)
    (written : Option StripeFulfillmentRecord) : Prop :=
  ∃ next, written = some next ∧ Keeps ((world.records key).getD (emptyStripeRecord key)) next ∧
    ∀ tx, closed next.status = false → boundSettlementTx next = some tx → sessionOf tx = key

/-- A step that touches the record of one session at most, and attributes nothing. -/
structure Touches (sessionOf : String → String) (world after : World) (key : String) : Prop where
  chain : after.chain = world.chain
  payouts : after.payouts = world.payouts
  scans : after.scans = world.scans
  parked : after.parked = world.parked
  keys : ∀ other ∈ world.keys, other ∈ after.keys
  marks : ∀ other, present (world.marks other).onchainVerifiedPull = true →
    (after.marks other).onchainVerifiedPull = (world.marks other).onchainVerifiedPull
  others : ∀ other, other ≠ key → after.records other = world.records other
  wrote : after.records key = world.records key ∨ key ∈ after.keys ∧ world.Written sessionOf key (after.records key)

variable {key : String}

section Touched

variable (touches : Touches sessionOf world after key)

include touches

theorem Touches.records (stored : String)
    (found : world.records stored = some record) : ∃ next, after.records stored = some next ∧ Keeps record next := by
  by_cases same : stored = key
  · subst same
    rcases touches.wrote with kept | ⟨_, next, now, keeps, _⟩
    · exact ⟨record, kept.trans found, .refl record⟩
    · rw [found] at keeps
      exact ⟨next, now, keeps⟩
  · exact ⟨record, (touches.others stored same).trans found, .refl record⟩

/-- Whatever is attributed on such a step was in manual review. -/
theorem Touches.grows (attributed : ∀ attribution ∈ after.attributions, attribution ∈ world.attributions ∨
      ∃ record, world.records attribution.invoiceKey = some record ∧ record.status = .manualReview ∧
        ∀ all, attribution.evidence = .exclusion all → boundSettlementTx record = none) : Grows world after where
  chain _ mined := touches.chain ▸ mined
  payouts _ _ paid := touches.payouts ▸ paid
  marks := touches.marks
  records stored _ found := touches.records stored found
  scans := touches.scans.ge
  parked _ _ noted := touches.parked ▸ noted
  unparked _ _ noted := .inl (touches.parked ▸ noted)
  attributed := attributed

theorem Touches.chained (chained : world.Chained) : after.Chained := by
  intro tx mined
  rw [touches.chain] at mined
  have found := chained tx mined
  unfold World.find at found ⊢
  rwa [touches.chain]

theorem Touches.keyed (books : Books sessionOf world) (stored : String) (found : after.records stored = some record) :
    record.invoiceKey = stored ∧ stored ∈ after.keys := by
  have before (same : after.records stored = world.records stored) : record.invoiceKey = stored ∧ stored ∈ after.keys := by
    obtain ⟨keyed, listed⟩ := books.keyed stored record (same ▸ found)
    exact ⟨keyed, touches.keys stored listed⟩
  by_cases same : stored = key
  · subst same
    rcases touches.wrote with kept | ⟨listed, next, now, keeps, _⟩
    · exact before kept
    · cases some.inj (now.symm.trans found)
      rw [keeps.same.key]
      cases current : world.records stored with
      | none => exact ⟨rfl, listed⟩
      | some earlier => exact ⟨(books.keyed stored earlier current).1, listed⟩
  · exact before (touches.others stored same)

theorem Touches.reported (books : Books sessionOf world) (stored : String)
    {tx : String} (found : after.records stored = some record)
    (unclosed : closed record.status = false) (bound : boundSettlementTx record = some tx) : sessionOf tx = stored := by
  have before (same : after.records stored = world.records stored) : sessionOf tx = stored :=
    books.reported stored record tx (same ▸ found) unclosed bound
  by_cases same : stored = key
  · subst same
    rcases touches.wrote with kept | ⟨_, next, now, _, reported⟩
    · exact before kept
    · cases some.inj (now.symm.trans found)
      exact reported tx unclosed bound
  · exact before (touches.others stored same)

/-- Such a step keeps the books, up to what it attributes. -/
theorem Touches.books (books : Books sessionOf world) (grows : Grows world after)
    (attributed : ∀ attribution ∈ after.attributions, ∃ record number amount,
      Attributed sessionOf after attribution record number amount) (single : after.OneToOne) : Books sessionOf after where
  chained := touches.chained books.chained
  keyed stored _ found := touches.keyed books stored found
  reported stored _ _ found := touches.reported books stored found
  parked stored number noted := by
    rw [touches.parked] at noted
    obtain ⟨taken, record, found, reviewable⟩ := books.parked stored number noted
    obtain ⟨next, now, keeps⟩ := grows.records stored record found
    exact ⟨touches.scans ▸ taken, next, now, keeps.reviewable reviewable⟩
  attributed := attributed
  single := single

/-- A step that attributes nothing. -/
theorem Touches.plain (books : Books sessionOf world)
    (same : after.attributions = world.attributions) : Books sessionOf after ∧ Grows world after := by
  have grows := touches.grows fun attribution listed => .inl (same ▸ listed)
  refine ⟨touches.books books grows ?_ ?_, grows⟩
  · intro attribution listed
    rw [same] at listed
    exact books.still_attributed grows (touches.chained books.chained) listed
  · intro first listed second listed'
    rw [same] at listed listed'
    exact books.single first listed second listed'

end Touched

/-! ## The conditions -/

/-- What pay-invoice reports is a settlement tx of the session it was called for. -/
def reports (sessionOf : String → String) : Action → Bool
  | .router (.record invoiceKey (.finalize _ _ opts)) =>
    (settlementTx opts.providerResult).all fun tx => sessionOf tx = invoiceKey
  | _ => true

/-- Pay-invoice never reports one settlement tx for two sessions. -/
abbrev Reports (sessionOf : String → String) : onchainMachine.Admits := fun _ action _ _ => reports sessionOf action = true

/-- The outcome of a call does not meet a record under review. -/
def meetsOpen (world : World) : Action → Bool
  | .router (.record invoiceKey (.finalize _ _ _)) => (world.records invoiceKey).all fun record => !reviewed record.status
  | _ => true

namespace World

variable (world : World)

/-- The first verified pull of a record is this one. -/
def pulled (invoiceKey txHash : String) : Bool :=
  present (world.marks invoiceKey).onchainVerifiedPull &&
    (world.marks invoiceKey).onchainVerifiedPull = some (toLowerCase txHash)

def amountOf (invoiceKey : String) : Option ℕ :=
  (world.records invoiceKey).bind fun record => parseInvoiceAtomic record.invoiceAmountAtomic

/-- The snapshot shows a record of this amount as the one that a settlement tx was reported for. -/
def showsBound (invoiceKey txHash : String) (amount : Option ℕ) (all : List Scanned) : Bool :=
  all.any fun other => other.record.invoiceKey = invoiceKey &&
    parseInvoiceAtomic other.record.invoiceAmountAtomic = amount && other.record.status ∉ SIBLING_CANNOT_PULL &&
    boundSettlementTx other.record = some (toLowerCase txHash)

/-- Another record with this pull does not go unseen: the session-bound path, which looks at no other record, meets
none; the search by exclusion meets one of the same amount, whose snapshot shows what pay-invoice reported. -/
def sees (sessionOf : String → String) (invoiceKey txHash other : String) : Evidence → Bool
  | .session => false
  | .exclusion all => world.amountOf other = world.amountOf invoiceKey &&
    (sessionOf txHash ≠ other || showsBound other txHash (world.amountOf invoiceKey) all)

/-- A record that is moved to paid carries the pull as its own, and no other record with it goes unseen. -/
def settlesSeen (sessionOf : String → String) : Action → Bool
  | .resolve invoiceKey txHash evidence _ =>
    !((world.records invoiceKey).any fun record => record.status = .manualReview) ||
      world.pulled invoiceKey txHash && world.keys.all fun other =>
        other = invoiceKey || !world.pulled other txHash || world.sees sessionOf invoiceKey txHash other evidence
  | _ => true

end World

abbrev Careful (sessionOf : String → String) : onchainMachine.Admits := fun _ action _ world =>
  reports sessionOf action = true ∧ meetsOpen world action = true ∧ world.settlesSeen sessionOf action = true

end MppRouter.Routes.Stripe.Onchain
