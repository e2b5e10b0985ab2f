import MppRouter.Routes.ReviewBooks

/-! # Every step keeps the books

Whatever the router does with the records, whatever the sweeps mark and however the chain grows, the books stay in
order. A resolution does too, where its sweep read what the books ask for.
-/

namespace MppRouter.Routes.Stripe.Onchain

open Concurrent Mpp Machine Function List Option

variable {sessionOf : String → String} {world after : World} {tid : ℕ} {choice : Choice}

/-! ## The router -/

/-- Only an operation on a record changes the records. -/
theorem perform_records {action : Stripe.Action} (guards : ∀ key op, action ≠ .record key op) (stripe : Stripe.World) :
    (Stripe.perform tid action choice stripe).2.records = stripe.records := by
  cases action with
  | record key op => exact absurd rfl (guards key op)
  | guard key op =>
    rcases Fault.apply_cases (rfl : choice.fault.apply (op.perform tid key) stripe = (_, _)) with ⟨_, same⟩ | ⟨same, _⟩
    · exact congrArg Stripe.World.records same
    · refine (congrArg Stripe.World.records same).trans ?_
      cases op with
      | claimInvoice now => rfl
      | reserveDailySpend now delta =>
        simp only [GuardOp.perform]
        split_ifs <;> rfl
      | releaseDailySpend whose now delta => rfl
  | scan | checkoutDeliveryPaused | funderBalance | decryptCapability sealed => rfl
  | resolveStripeInvoice key =>
    simp only [Stripe.perform]
    split <;> rfl
  | send key args | receive key => rfl

variable {keys : List String}

/-- A step that leaves the records alone. -/
theorem Touches.still {stripe : Stripe.World} (same : stripe.records = world.stripe.records)
    (listed : ∀ key ∈ world.keys, key ∈ keys) (key : String) :
    Touches sessionOf world { world with stripe, keys } key where
  chain := rfl
  payouts := rfl
  scans := rfl
  parked := rfl
  keys := listed
  marks _ _ := rfl
  others other _ := congrFun same other
  wrote := .inl (congrFun same key)

variable {key : String}

theorem Touches.write {stripe : Stripe.World} {attributions : List Attribution}
    {written : Option StripeFulfillmentRecord}
    (records : stripe.records = update world.stripe.records key written)
    (listed : ∀ other, other ∈ world.keys ∨ other = key → other ∈ keys)
    (wrote : written = world.records key ∨ world.Written sessionOf key written) :
    Touches sessionOf world { world with stripe, keys, attributions } key where
  chain := rfl
  payouts := rfl
  scans := rfl
  parked := rfl
  keys other before := listed other (.inl before)
  marks _ _ := rfl
  others other distinct := by
    show stripe.records other = _
    rw [records, update_of_ne distinct]
  wrote := by
    show stripe.records key = _ ∨ _ ∧ ∃ next, stripe.records key = some next ∧ _
    rw [records, update_self]
    exact wrote.imp_right fun now => ⟨listed key (.inr rfl), now⟩

theorem Books.reported_getD (books : Books sessionOf world) {tx : String}
    (unclosed : closed ((world.records key).getD (emptyStripeRecord key)).status = false)
    (bound : boundSettlementTx ((world.records key).getD (emptyStripeRecord key)) = some tx) : sessionOf tx = key := by
  cases current : world.records key with
  | none =>
    rw [current] at bound
    cases bound
  | some record =>
    rw [current] at unclosed bound
    exact books.reported key record tx current unclosed bound

/-- What a writer decides is written, or there was nothing to write. -/
theorem decides_after {R : Type} {decision : Decision StripeFulfillmentRecord R}
    (decides : Decides ((world.records key).getD (emptyStripeRecord key)) decision) (books : Books sessionOf world) :
    decision.after (world.records key) = world.records key ∨
      world.Written sessionOf key (decision.after (world.records key)) := by
  cases decision with
  | noop result => exact .inl rfl
  | set value result =>
    obtain ⟨next, same, writes⟩ := decides
    cases same
    refine .inr ⟨value, rfl, writes.keeps, fun tx unclosed bound => ?_⟩
    obtain ⟨before, kept⟩ := writes.unclosed unclosed
    rw [boundSettlementTx, kept] at bound
    exact books.reported_getD before bound

/-- What the outcome of a call writes is of its session. -/
theorem finalize_after {now : ℕ} {finalStatus : StripeRouterStatus} {opts : FinalizeOpts}
    (books : Books sessionOf world) (reported : reports sessionOf (.router (.record key (.finalize now finalStatus opts))) = true)
    (meets : meetsOpen world (.router (.record key (.finalize now finalStatus opts))) = true) :
    world.Written sessionOf key
      ((updateStripeRecord key (finalizeClaim now finalStatus opts) (world.records key)).after (world.records key)) := by
  have outside : reviewed ((world.records key).getD (emptyStripeRecord key)).status = false := by
    cases current : world.records key with
    | none => rfl
    | some record => simpa [meetsOpen, current] using meets
  have unclosed : closed ((world.records key).getD (emptyStripeRecord key)).status = false := by
    cases done : closed ((world.records key).getD (emptyStripeRecord key)).status with
    | false => rfl
    | true =>
      rw [closed_reviewed done] at outside
      cases outside
  obtain ⟨next, wrote, keeps, result⟩ := finalize_keeps now finalStatus opts outside
  refine ⟨next, wrote, keeps, fun tx _ bound => ?_⟩
  rw [boundSettlementTx, result] at bound
  cases answer : opts.providerResult with
  | none =>
    rw [answer] at bound
    exact books.reported_getD unclosed bound
  | some result =>
    rw [answer] at bound
    simp only [reports, answer, Option.all_eq_true] at reported
    exact of_decide_eq_true (reported tx bound)

theorem op_after {op : RecordOp} (books : Books sessionOf world)
    (reported : reports sessionOf (.router (.record key op)) = true) (meets : meetsOpen world (.router (.record key op)) = true) :
    (op.decide key (world.records key)).after (world.records key) = world.records key ∨
      world.Written sessionOf key ((op.decide key (world.records key)).after (world.records key)) := by
  cases op with
  | load | inspect => exact .inl rfl
  | finalize now finalStatus opts => exact .inr (finalize_after books reported meets)
  | seed args now => exact decides_after (seed_decides args now _) books
  | claim input now => exact decides_after (claim_decides input now _) books
  | release now releaseTo balance kind detail =>
    exact decides_after (release_decides now releaseTo balance kind detail _) books
  | stampCheck now minInterval => exact decides_after (stampCheck_decides now minInterval _) books
  | recordCheckError now error => exact decides_after (checkError_decides now error _) books
  | recordCheck now live => exact decides_after (check_decides now live _) books
  | reopen now plan => exact decides_after (reopen_decides now plan _) books
  | resolve args => exact decides_after (resolve_decides args _) books

theorem router_keeps {action : Stripe.Action} {answer : action.Answer} (books : Books sessionOf world)
    (careful : Careful sessionOf tid (.router action) choice world)
    (performed : perform tid (.router action) choice world = some (answer, after)) :
    Books sessionOf after ∧ Grows world after := by
  obtain ⟨reported, meets, _⟩ := careful
  cases performed
  have still (same : (Stripe.perform tid action choice world.stripe).2.records = world.stripe.records)
      (listed : ∀ key ∈ world.keys, key ∈ touched action world.keys) :
      Books sessionOf { world with
        stripe := (Stripe.perform tid action choice world.stripe).2, keys := touched action world.keys } ∧
      Grows world _ :=
    (Touches.still same listed "").plain books rfl
  cases action with
  | record key op =>
    have listed : ∀ other, other ∈ world.keys ∨ other = key → other ∈ world.keys.insert key := by
      intro other
      rw [mem_insert_iff, or_comm]
      exact id
    rcases Fault.apply_cases (rfl : choice.fault.apply (op.perform tid key) world.stripe = (_, _)) with
      ⟨_, same⟩ | ⟨same, _⟩
    · apply still
      · exact congrArg Stripe.World.records same
      · exact fun other before => listed other (.inl before)
    · refine Touches.plain (Touches.write ?_ listed (op_after books reported meets)) books rfl
      exact congrArg Stripe.World.records same
  | guard | scan | checkoutDeliveryPaused | funderBalance | decryptCapability | resolveStripeInvoice | send | receive =>
    apply still
    · apply perform_records
      intro key op same
      cases same
    · exact fun _ listed => listed

/-! ## The sweeps -/

/-- Marks are written where the record's own pull stays. -/
theorem mark_touches (books : Books sessionOf world) (key : String) (marks : Marks)
    (kept : present (world.marks key).onchainVerifiedPull = true →
      marks.onchainVerifiedPull = (world.marks key).onchainVerifiedPull) :
    Touches sessionOf world (world.mark key marks) key where
  chain := rfl
  payouts := rfl
  scans := rfl
  parked := rfl
  keys _ listed := mem_insert_of_mem listed
  marks other marked := by
    by_cases same : other = key
    · subst same
      simpa [World.mark] using kept marked
    · simp [World.mark, update_of_ne same]
  others other distinct := update_of_ne distinct ..
  wrote := by
    refine .inr ⟨mem_insert_self, _, update_self .., .refl _, fun tx unclosed bound => ?_⟩
    exact books.reported_getD unclosed bound

theorem stamp_keeps (books : Books sessionOf world) (key : String) (now : ℕ) :
    Books sessionOf (world.stampOnchainCheck key now).2 ∧ Grows world (world.stampOnchainCheck key now).2 := by
  simp only [World.stampOnchainCheck]
  split_ifs
  · exact ⟨books, .refl world⟩
  · exact ⟨books, .refl world⟩
  · have touches := mark_touches books key { world.marks key with
      onchainCheckAt := some now, onchainCheckVersion := some ONCHAIN_CHECK_VERSION } fun _ => rfl
    exact touches.plain books rfl

theorem remember_keeps (books : Books sessionOf world) (key txHash : String) :
    Books sessionOf (world.rememberVerifiedPull key txHash) ∧ Grows world (world.rememberVerifiedPull key txHash) := by
  simp only [World.rememberVerifiedPull]
  split_ifs with marked
  · exact ⟨books, .refl world⟩
  · exact (mark_touches books key _ fun now => absurd now marked).plain books rfl

/-! ## Snapshots and the chain -/

/-- A snapshot notes what it finds in manual review for the first time. -/
theorem parked_scan {number : ℕ}
    (parked : (world.scan keys).2.parked key = some number) : world.parked key = some number ∨
      number = world.scans + 1 ∧ ∃ record, world.records key = some record ∧ (onchainUncheckableReason record).isNone = true := by
  simp only [World.scan] at parked
  cases noted : world.parked key with
  | some earlier =>
    rw [noted] at parked
    exact .inl parked
  | none =>
    simp only [noted] at parked
    split_ifs at parked with found
    obtain ⟨checkable, stored⟩ := found
    obtain ⟨record, current⟩ := isSome_iff_exists.mp stored
    rw [current] at checkable
    exact .inr ⟨(some.inj parked).symm, record, current, checkable⟩

section Kept

variable (books : Books sessionOf world)

include books

theorem scan_keeps (keys : List String) : Books sessionOf (world.scan keys).2 ∧ Grows world (world.scan keys).2 := by
  have grows : Grows world (world.scan keys).2 := by
    constructor
    · exact fun _ mined => mined
    · exact fun _ _ paid => paid
    · exact fun _ _ => rfl
    · exact fun _ record stored => ⟨record, stored, .refl record⟩
    · exact Nat.le_succ _
    · intro key number noted
      simp [World.scan, noted]
    · intro key number noted
      rcases parked_scan noted with before | ⟨same, _⟩
      · exact .inl before
      · right
        omega
    · exact fun _ listed => .inl listed
  refine ⟨⟨books.chained, books.keyed, books.reported, ?_, ?_, books.single⟩, grows⟩
  · intro key number noted
    rcases parked_scan noted with before | ⟨same, record, stored, checkable⟩
    · obtain ⟨taken, found⟩ := books.parked key number before
      exact ⟨taken.trans (Nat.le_succ _), found⟩
    · exact ⟨same.le, record, stored, .of_checkable checkable⟩
  · intro attribution listed
    exact books.still_attributed grows books.chained listed

/-- A snapshot has the records as they are stored. -/
theorem mem_scan {other : Scanned} (scanned : other ∈ (world.scan keys).1) :
    world.records other.record.invoiceKey = some other.record ∧ other.marks = world.marks other.record.invoiceKey := by
  obtain ⟨key, _, found⟩ := mem_filterMap.mp scanned
  obtain ⟨record, stored, same⟩ := map_eq_some_iff.mp found
  cases same
  have keyed := (books.keyed key record stored).1
  exact ⟨keyed ▸ stored, by rw [keyed]⟩

/-- A snapshot of every key shows what is parked by now. -/
theorem scan_shows (listed : ∀ key ∈ world.keys, key ∈ keys) :
    Shows (world.scan keys).2 (world.scans + 1) (world.scan keys).1 := by
  constructor
  · exact le_rfl
  · intro other scanned _
    rw [(mem_scan books scanned).2]
    rfl
  · intro key number noted _
    obtain ⟨_, record, stored, reviewable⟩ := (scan_keeps books keys).1.parked key number noted
    have keyed := books.keyed key record stored
    have scanned : (⟨record, world.marks key⟩ : Scanned) ∈ (world.scan keys).1 := by
      apply mem_filterMap.mpr
      refine ⟨key, mem_dedup.mpr (listed key keyed.2), ?_⟩
      show (world.records key).map _ = _
      rw [show world.records key = some record from stored]
      rfl
    refine ⟨_, scanned, keyed.1, ⟨record, (mem_scan books scanned).1, .refl record⟩, reviewable, ?_⟩
    intro unmarked attribution attributed same Option.all _
    obtain ⟨_, _, _, proof⟩ := books.attributed attribution attributed
    have marked := proof.marked
    rw [same, ← (mem_scan books scanned).2, unmarked] at marked
    cases marked

theorem mine_keeps {tx : Transaction} (lower : toLowerCase tx.hash = tx.hash) (unmined : world.find tx.hash = none) :
    Books sessionOf { world with chain := world.chain ++ [tx] } ∧ Grows world { world with chain := world.chain ++ [tx] } := by
  have grows : Grows world { world with chain := world.chain ++ [tx] } :=
    { Grows.refl world with chain := fun _ mined => mem_append_left _ mined }
  have chained : World.Chained { world with chain := world.chain ++ [tx] } := by
    intro other mined
    simp only [World.find, find?_append]
    rcases mem_append.mp mined with before | new
    · rw [show world.chain.find? _ = some other from books.chained other before]
      rfl
    · cases mem_singleton.mp new
      rw [show world.chain.find? _ = none from unmined]
      simp [lower]
  refine ⟨⟨chained, books.keyed, books.reported, books.parked, ?_, books.single⟩, grows⟩
  intro attribution listed
  exact books.still_attributed grows chained listed

theorem payOut_keeps {rozoId txHash : String} (unpaid : world.payouts rozoId = none) :
    Books sessionOf { world with payouts := update world.payouts rozoId (some txHash) } ∧
      Grows world { world with payouts := update world.payouts rozoId (some txHash) } := by
  have grows : Grows world { world with payouts := update world.payouts rozoId (some txHash) } :=
    { Grows.refl world with
      payouts := by
        intro other hash paid
        by_cases same : other = rozoId
        · rw [same, unpaid] at paid
          cases paid
        · exact (update_of_ne same ..).trans paid }
  refine ⟨⟨books.chained, books.keyed, books.reported, books.parked, ?_, books.single⟩, grows⟩
  intro attribution listed
  exact books.still_attributed grows books.chained listed

end Kept

/-! ## Every step but a resolution -/

def Action.resolves : Action → Bool
  | .resolve _ _ _ _ => true
  | _ => false

/-- An operation that may fail keeps the books where it does. -/
theorem fault_keeps {A : Type} {operation : World → A × World} {answer : Option A} (books : Books sessionOf world)
    (performed : choice.fault.apply operation world = (answer, after))
    (kept : Books sessionOf (operation world).2 ∧ Grows world (operation world).2) :
    Books sessionOf after ∧ Grows world after := by
  rcases Fault.apply_cases performed with ⟨_, rfl⟩ | ⟨rfl, _⟩
  · exact ⟨books, .refl after⟩
  · exact kept

theorem step_keeps {action : Action} {answer : action.Answer} (plain : action.resolves = false)
    (books : Books sessionOf world) (careful : Careful sessionOf tid action choice world)
    (performed : perform tid action choice world = some (answer, after)) :
    Books sessionOf after ∧ Grows world after := by
  cases action with
  | router action => exact router_keeps books careful performed
  | scan =>
    simp only [perform] at performed
    split_ifs at performed
    exact fault_keeps books (some.inj performed) (scan_keeps books choice.keys)
  | stampOnchainCheck key now => exact fault_keeps books (some.inj performed) (stamp_keeps books key now)
  | rememberVerifiedPull key txHash =>
    exact fault_keeps books (some.inj performed) (remember_keeps books key txHash)
  | resolve key txHash evidence now => cases plain
  | load key | fetchPayment rozoId | getTransactionReceipt hash | getTransactionByHash hash | getLogs first last incoming funder =>
    cases performed
    exact ⟨books, .refl world⟩
  | mine tx =>
    simp only [perform] at performed
    split_ifs at performed with fresh
    obtain ⟨lower, unmined, _⟩ := fresh
    cases performed
    exact mine_keeps books lower (isNone_iff_eq_none.mp unmined)
  | payOut rozoId txHash =>
    simp only [perform] at performed
    split_ifs at performed with unpaid
    cases performed
    exact payOut_keeps books (isNone_iff_eq_none.mp unpaid)

end MppRouter.Routes.Stripe.Onchain
