import Mathlib.Data.List.Forall2
import MppRouter.Core.Solo
import MppRouter.Routes.CreateInvoicePlan

/-! # The read-only order and the gate

The endpoint that shows the current order of a link picks it from the same slots as a call that would create or reuse
one. Read at one time, the two agree on an order that blocks the link and on one that is reused.
-/

namespace MppRouter.Routes.Orders

open Concurrent Machine Function List Prod Option

/-! ## A scan at one time -/

/-- Lookups are answered, and this is what the scan of an order's addresses says at the time. -/
def answeredAs (scans : Slot → Option ScanVerdict) : orderMachine.Admits := fun _ action choice _ =>
  match action with
  | .lookupOrder _ => choice.fault = .none
  | .scanVerdict slot => choice.verdict = scans slot
  | _ => True

instance (scans : Slot → Option ScanVerdict) (tid : ℕ) (action : Action) (choice : Choice) (world : World) :
    Decidable (answeredAs scans tid action choice world) :=
  match action with
  | .lookupOrder _ => inferInstanceAs (Decidable (choice.fault = .none))
  | .scanVerdict slot => inferInstanceAs (Decidable (choice.verdict = scans slot))
  | .refetchPaymentRow _ | .now | .rotateExistingSource _ _ | .checkLink | .createOrder _ | .answer _ | .tick _
  | .change _ _ => inferInstanceAs (Decidable True)

/-- What a lookup of a slot answers now. -/
def worldLookup (world : World) (slot : Slot) : OrderLookup := (world.orders slot).elim .missing .found

theorem worldLookup_row (world : World) (slot : Slot) : (worldLookup world slot).row = world.orders slot := by
  unfold worldLookup
  cases world.orders slot with
  | none => rfl
  | some row => rfl

theorem worldLookup_read (world : World) (slot : Slot) : (worldLookup world slot).failed = false := by
  unfold worldLookup
  cases world.orders slot with
  | none => rfl
  | some row => rfl

section Solo

variable {scans : Slot → Option ScanVerdict} {tid : ℕ} {world after : World}

theorem lookupAll_solo {pending : ℕ} {waiting : List Slot} (all : pending = waiting.length)
    {before scanned : Slot → OrderLookup}
    (solo : Solo (answeredAs scans) tid (lookupAll pending waiting before) world scanned after) :
    after = world ∧ ∀ slot, scanned slot = if slot ∈ waiting then worldLookup world slot else before slot := by
  induction pending generalizing waiting before with
  | zero =>
    obtain rfl : waiting = [] := length_eq_zero_iff.mp all.symm
    obtain ⟨rfl, rfl⟩ := Solo.of_pure solo
    exact ⟨rfl, fun slot => (if_neg not_mem_nil).symm⟩
  | succ pending ih =>
    obtain ⟨choice, ⟨read, result⟩, middle, admitted, performed, later⟩ := Solo.of_call solo
    obtain ⟨picked, -, same⟩ := map_eq_some_iff.mp performed
    obtain ⟨shown, rfl⟩ := mk.inj same
    obtain ⟨rfl, rfl⟩ := mk.inj shown
    have shorter : pending = (waiting.erase picked.1).length := by
      rw [length_erase_of_mem picked.2]
      omega
    obtain ⟨rfl, rest⟩ := ih shorter later
    refine ⟨rfl, fun slot => ?_⟩
    rw [rest slot]
    by_cases same : slot = picked.1
    · subst same
      rw [if_pos picked.2, update_self]
      split
      · rfl
      · exact if_pos admitted
    · rw [update_of_ne same]
      simp only [mem_erase_of_ne same]

/-- A scan alone shows the slots as they stand. -/
structure Shows (scan : Scan) (world : World) : Prop where
  time : scan.now = world.now
  covers : scan.Covers
  scanned : ∀ slot ∈ scan.allIds, scan.scanned slot = worldLookup world slot
  existing : scanOrderSlots world.now (worldLookup world) = some scan.entries

theorem scan_existing {scan : Scan} {ids : List Slot} (same : scan.allIds = ids) (time : scan.now = world.now)
    (scanned : ∀ slot ∈ scan.allIds, scan.scanned slot = worldLookup world slot)
    (chosen : (if (worldLookup world .base).row.any (fun row => !isLive world.now row) then firstIds ++ retryOrderIds
      else firstIds) = ids) : scanOrderSlots world.now (worldLookup world) = some scan.entries := by
  have none : ids.any (fun slot => (worldLookup world slot).failed) = false :=
    any_eq_false.mpr fun slot _ => by simp [worldLookup_read]
  simp only [scanOrderSlots]
  rw [chosen, none, if_neg Bool.false_ne_true, Scan.entries, same]
  congr 1
  apply map_congr_left
  intro slot member
  simp only [Scan.entry, time, scanned slot (same ▸ member)]

theorem scanSlots_solo {scan : Scan} (solo : Solo (answeredAs scans) tid scanSlots world scan after) :
    after = world ∧ Shows scan world := by
  obtain ⟨first, middle, looked, timed⟩ := Solo.of_bind solo
  obtain ⟨rfl, shown⟩ := lookupAll_solo rfl looked
  obtain ⟨choice, now, middle, -, performed, judged⟩ := Solo.of_call timed
  obtain ⟨rfl, rfl⟩ := mk.inj (some.inj performed)
  have base : first .base = worldLookup middle .base := (shown .base).trans (if_pos (by decide))
  cases ended : baseOver middle.now (first .base) with
  | false =>
    rw [ended] at judged
    obtain ⟨rfl, rfl⟩ := Solo.of_pure judged
    have scanned : ∀ slot ∈ firstIds, first slot = worldLookup after slot :=
      fun slot member => (shown slot).trans (if_pos member)
    refine ⟨rfl, rfl, .inr ⟨rfl, ended⟩, scanned, scan_existing rfl rfl scanned ?_⟩
    rw [base] at ended
    exact if_neg (Bool.eq_false_iff.mp ended)
  | true =>
    rw [ended] at judged
    obtain ⟨scanned, middle, relooked, timedAgain⟩ := Solo.of_bind judged
    obtain ⟨rfl, reshown⟩ := lookupAll_solo rfl relooked
    obtain ⟨choice, later, middle, -, performed, done⟩ := Solo.of_call timedAgain
    obtain ⟨rfl, rfl⟩ := mk.inj (some.inj performed)
    obtain ⟨rfl, rfl⟩ := Solo.of_pure done
    have all : ∀ slot ∈ firstIds ++ retryOrderIds, scanned slot = worldLookup after slot := by
      intro slot member
      rw [reshown slot]
      split
      · rfl
      · rename_i other
        have firstOnes : slot ∈ firstIds := (mem_append.mp member).resolve_right other
        exact (shown slot).trans (if_pos firstOnes)
    refine ⟨rfl, rfl, .inl rfl, all, scan_existing rfl rfl all ?_⟩
    rw [base] at ended
    exact if_pos ended

end Solo

/-! ## The pick in the words of the gate -/

def shown (entry : OrderSlotEntry) : Option (OrderSlotEntry × Row) := entry.row.map fun row => (entry, row)

def placed (order : OrderSlotEntry × Row) : Slot × Row := (order.1.slot, order.2)

/-- The picked order with its slot. -/
def current (entries : List OrderSlotEntry) : Option (Slot × Row) := (pickCurrentOrder entries).map placed

theorem not_calm (row : Row) :
    (row.status.any fun status => status ≠ REUSABLE_PAYMENT_STATUS && status ≠ PAYMENT_EXPIRED) = !row.calm := by
  cases status : row.status with
  | none => simp [Row.calm, status]
  | some value => simp [Row.calm, status]

theorem inFlight_shown (entries : List OrderSlotEntry) : ((entries.filterMap shown).find? fun order =>
      order.2.status.any fun status => status ≠ REUSABLE_PAYMENT_STATUS && status ≠ PAYMENT_EXPIRED) =
      (inFlight entries).bind shown := by
  rw [find?_filterMap]
  congr 2
  funext entry
  simp only [not_calm]
  cases row : entry.row with
  | none => simp [shown, row]
  | some row => simp [shown, row]

theorem newest_shown (entries : List OrderSlotEntry) (wanted : Slot → Row → Bool) :
    ((entries.filterMap shown).reverse.find? fun order => order.1.live && wanted order.1.slot order.2).map placed =
      newestLive entries wanted := by
  unfold newestLive
  rw [← filterMap_reverse]
  induction entries.reverse with
  | nil => rfl
  | cons entry entries ih =>
    cases present : entry.row with
    | none =>
      have skipped : shown entry = none := by rw [shown, present]; rfl
      rw [filterMap_cons_none skipped, ih, findSome?_cons, present]
      rfl
    | some row =>
      have listed : shown entry = some (entry, row) := by rw [shown, present]; rfl
      rw [filterMap_cons_some listed, find?_cons, findSome?_cons, present]
      cases fits : entry.live && wanted entry.slot row with
      | true => simp only [fits, bind_some, if_true]; rfl
      | false => simpa only [fits, bind_some, Bool.false_eq_true, if_false] using ih

theorem current_eq (entries : List OrderSlotEntry) : current entries =
    ((inFlight entries).bind fun entry => (shown entry).map placed).or
      (((liveClassic entries).or (liveContract entries)).or
        ((((entries.filterMap shown).find? fun order => (rowFundingEvidence order.2).isSome).map placed).or
          ((entries.filterMap shown).getLast?.map placed))) := by
  have classic : ((entries.filterMap shown).reverse.find? fun order =>
      order.1.live && !isContractRow order.2 && !order.1.slot.isContract).map placed = liveClassic entries := by
    rw [liveClassic, ← newest_shown]
    simp only [Bool.and_assoc]
  have contract : ((entries.filterMap shown).reverse.find? fun order =>
      order.1.live && isContractRow order.2).map placed = liveContract entries := newest_shown entries fun _ row => isContractRow row
  have flight := congrArg (Option.map placed) (inFlight_shown entries)
  rw [map_bind] at flight
  rw [← classic, ← contract, show ((inFlight entries).bind fun entry => (shown entry).map placed) = _ from flight.symm]
  simp only [current, pickCurrentOrder, map_or]
  rfl

/-! ## The guard alone -/

theorem worst_append_none (blocks : List (Option RelinkBlock)) : worst (blocks ++ [none]) = worst blocks := by
  simp only [worst, foldl_append, foldl_cons, foldl_nil]

theorem worst_append_some (blocks : List (Option RelinkBlock)) (last : RelinkBlock) :
    worst (blocks ++ [some last]) = (worst blocks).elim (some last) fun worst =>
      if worst.reason.rank < last.reason.rank then some last else some worst := by
  simp only [worst, foldl_append, foldl_cons, foldl_nil]
  split
  · rename_i same
    cases same
  · rename_i none same
    rw [none, some.inj same]
    rfl
  · rename_i some same
    rw [some, Option.some.inj same]
    rfl

/-- The worst block is the first of the highest rank. -/
theorem worst_spec (blocks : List (Option RelinkBlock)) : (worst blocks = none → ∀ block ∈ blocks, block = none) ∧
      ∀ block, worst blocks = some block → (∀ other, some other ∈ blocks → other.reason.rank ≤ block.reason.rank) ∧
        ∃ front back, blocks = front ++ some block :: back ∧
          ∀ other, some other ∈ front → other.reason.rank < block.reason.rank := by
  induction blocks using List.reverseRecOn with
  | nil => exact ⟨fun _ _ member => absurd member not_mem_nil, fun _ same => nomatch same⟩
  | append_singleton blocks last ih =>
    obtain ⟨empty, strongest⟩ := ih
    cases last with
    | none =>
      rw [worst_append_none]
      constructor
      · intro none block member
        rcases mem_append.mp member with earlier | same
        · exact empty none block earlier
        · exact mem_singleton.mp same
      · intro block same
        obtain ⟨most, front, back, rfl, first⟩ := strongest block same
        refine ⟨fun other member => ?_, front, back ++ [none], by simp, first⟩
        rcases mem_append.mp member with earlier | last
        · exact most other earlier
        · cases mem_singleton.mp last
    | some last =>
      rw [worst_append_some]
      cases earlier : worst blocks with
      | none =>
        have clear := empty earlier
        constructor
        · intro same
          cases same
        · intro block same
          obtain rfl : last = block := some.inj same
          refine ⟨fun other member => ?_, blocks, [], rfl, fun other member => nomatch clear _ member⟩
          rcases mem_append.mp member with before | this
          · cases clear _ before
          · obtain rfl := some.inj (mem_singleton.mp this)
            exact le_rfl
      | some worst =>
        obtain ⟨most, front, back, split, first⟩ := strongest worst earlier
        constructor
        · intro same
          rw [elim_some] at same
          split at same
          · cases same
          · cases same
        · intro block same
          rw [elim_some] at same
          split at same
          · rename_i weaker
            obtain rfl : last = block := some.inj same
            refine ⟨fun other member => ?_, blocks, [], rfl, fun other member => ?_⟩
            · rcases mem_append.mp member with before | this
              · exact Nat.le_of_lt (Nat.lt_of_le_of_lt (most other before) weaker)
              · obtain rfl := some.inj (mem_singleton.mp this)
                exact le_rfl
            · exact Nat.lt_of_le_of_lt (most other member) weaker
          · rename_i strong
            obtain rfl : worst = block := some.inj same
            refine ⟨fun other member => ?_, front, back ++ [some last], by simp [split], first⟩
            rcases mem_append.mp member with before | this
            · exact most other before
            · obtain rfl := some.inj (mem_singleton.mp this)
              omega

/-- The scan finds funds that the row of a closed order does not show. -/
def Unshown (scans : Slot → Option ScanVerdict) (slot : Slot) (row : Row) : Prop :=
  rowFundingEvidence row = none ∧ row.status = some PAYMENT_EXPIRED ∧ ∃ verdict, scans slot = some (.other verdict)

/-- What the guard may say of an earlier order. -/
structure Judged (scans : Slot → Option ScanVerdict) (now : ℕ) (order : Slot × Row) (block : Option RelinkBlock) :
    Prop where
  funded : (rowFundingEvidence order.2).isSome = true → block = some ⟨.previousOrderFunded, order.1⟩
  blocked : ∀ this, block = some this → this.slot = order.1 ∧
    (this.reason = .previousOrderFunded → (rowFundingEvidence order.2).isSome = true) ∧
    (this.reason = .previousOrderFundsFound → Unshown scans order.1 order.2)
  clear : block = none → revived now order.2 = false

section Solo

variable {scans : Slot → Option ScanVerdict} {tid : ℕ} {world after : World}

variable {slot : Slot} {row : Row}

theorem checkPreviousOrderUnfunded_solo {now : ℕ} {block : Option RelinkBlock}
    (solo : Solo (answeredAs scans) tid (checkPreviousOrderUnfunded now slot row) world block after) :
    after = world ∧ Judged scans now (slot, row) block := by
  unfold checkPreviousOrderUnfunded at solo
  cases evidence : rowFundingEvidence row with
  | some text =>
    rw [evidence] at solo
    obtain ⟨rfl, rfl⟩ := Solo.of_pure solo
    refine ⟨rfl, fun _ => rfl, fun this same => ?_, nofun⟩
    obtain rfl := some.inj same
    refine ⟨rfl, fun _ => ?_, nofun⟩
    rw [evidence]
    rfl
  | none =>
    have unfunded : ¬(rowFundingEvidence row).isSome = true := by simp [evidence]
    rw [if_neg unfunded] at solo
    split at solo
    · rename_i quote
      obtain ⟨rfl, rfl⟩ := Solo.of_pure solo
      refine ⟨rfl, fun funded => absurd funded unfunded, nofun, fun _ => ?_⟩
      simp [revived, quote]
    · split at solo
      · obtain ⟨rfl, rfl⟩ := Solo.of_pure solo
        refine ⟨rfl, fun funded => absurd funded unfunded, fun this same => ?_, nofun⟩
        obtain rfl := some.inj same
        exact ⟨rfl, nofun, nofun⟩
      · rename_i expired
        have closed : row.status = some PAYMENT_EXPIRED := not_not.mp expired
        obtain ⟨choice, verdict, middle, asked, performed, done⟩ := Solo.of_call solo
        obtain ⟨rfl, rfl⟩ := mk.inj (some.inj performed)
        obtain ⟨rfl, rfl⟩ := Solo.of_pure done
        refine ⟨rfl, fun funded => absurd funded unfunded, fun this same => ?_, fun _ => ?_⟩
        · obtain ⟨reason, said, rfl⟩ := map_eq_some_iff.mp same
          refine ⟨rfl, ?_, ?_⟩
          · rintro rfl
            rcases verdict : choice.verdict with _ | _ | _ | _ <;> rw [verdict] at said <;> cases said
          · rintro rfl
            refine ⟨evidence, closed, ?_⟩
            have answered : choice.verdict = scans slot := asked
            rcases scanned : scans slot with _ | _ | _ | verdict <;> rw [answered, scanned] at said <;> cases said
            exact ⟨verdict, rfl⟩
        · simp [revived, closed]

theorem checkPreviousOrdersUnfunded_solo {now : ℕ} {previous : List (Slot × Row)} {blocks : List (Option RelinkBlock)}
    (solo : Solo (answeredAs scans) tid (checkPreviousOrdersUnfunded now previous) world blocks after) :
    after = world ∧ List.Forall₂ (Judged scans now) previous blocks := by
  induction previous generalizing blocks after with
  | nil =>
    obtain ⟨rfl, rfl⟩ := Solo.of_pure solo
    exact ⟨rfl, .nil⟩
  | cons order rows ih =>
    obtain ⟨slot, row⟩ := order
    obtain ⟨block, middle, first, others⟩ := Solo.of_bind solo
    obtain ⟨rfl, judged⟩ := checkPreviousOrderUnfunded_solo first
    obtain ⟨rest, middle, guarded, done⟩ := Solo.of_bind others
    obtain ⟨rfl, all⟩ := ih guarded
    obtain ⟨rfl, rfl⟩ := Solo.of_pure done
    exact ⟨rfl, .cons judged all⟩

/-! ## A create alone -/

theorem refetchAll_solo {pending : ℕ} {waiting : List Slot} {before rows : Slot → Option Row}
    (known : ∀ slot row, before slot = some row → world.orders slot = some row)
    (solo : Solo (answeredAs scans) tid (refetchAll pending waiting before) world rows after) :
    after = world ∧ ∀ slot row, rows slot = some row → world.orders slot = some row := by
  induction pending generalizing waiting before with
  | zero =>
    obtain ⟨rfl, rfl⟩ := Solo.of_pure solo
    exact ⟨rfl, known⟩
  | succ pending ih =>
    obtain ⟨choice, ⟨read, row⟩, middle, -, performed, later⟩ := Solo.of_call solo
    obtain ⟨picked, -, same⟩ := map_eq_some_iff.mp performed
    obtain ⟨shown, rfl⟩ := mk.inj same
    obtain ⟨rfl, rfl⟩ := mk.inj shown
    apply ih _ later
    intro slot row present
    by_cases this : slot = picked.1
    · subst this
      rw [update_self] at present
      split at present
      · exact present
      · cases present
    · rw [update_of_ne this] at present
      exact known slot row present

/-- Orders that are still closed unpaid block nothing. -/
theorem replacedRowsBlock_solo {replaced : List Slot} {blocked : Option Answer}
    (closed : ∀ old ∈ replaced, ∃ row, world.orders old = some row ∧ revived world.now row = false)
    (solo : Solo (answeredAs scans) tid (replacedRowsBlock replaced) world blocked after) :
    after = world ∧ ∀ answer, blocked = some answer → answer = orderLookupFailed := by
  cases replaced with
  | nil =>
    obtain ⟨rfl, rfl⟩ := Solo.of_pure solo
    exact ⟨rfl, nofun⟩
  | cons head tail =>
    unfold replacedRowsBlock at solo
    obtain ⟨rows, middle, refetched, timed⟩ := Solo.of_bind solo
    obtain ⟨rfl, truthful⟩ := refetchAll_solo (fun _ _ same => absurd same (some_ne_none _).symm) refetched
    obtain ⟨choice, now, middle, -, performed, done⟩ := Solo.of_call timed
    obtain ⟨rfl, rfl⟩ := mk.inj (some.inj performed)
    obtain ⟨rfl, rfl⟩ := Solo.of_pure done
    refine ⟨rfl, fun answer same => ?_⟩
    split at same
    · exact (some.inj same).symm
    · obtain ⟨old, found, -⟩ := map_eq_some_iff.mp same
      have back := find?_some found
      obtain ⟨row, shown, alive⟩ := (any_eq_true _ _).mp back
      obtain ⟨other, stands, still⟩ := closed old (mem_of_find?_eq_some found)
      obtain rfl := some.inj (stands.symm.trans (truthful old row shown))
      rw [still] at alive
      cases alive

variable {request : Request} {answer : Answer}

/-- A call that creates an order in a free slot, alone, names no other order as active and hands out no other. -/
theorem createOrder_solo {attempt : Attempt}
    (free : world.orders attempt.slot = none) (fresh : attempt.superseded = none)
    (closed : ∀ old ∈ attempt.replaced, ∃ row, world.orders old = some row ∧ revived world.now row = false)
    (solo : Solo (answeredAs scans) tid (createOrder request attempt) world answer after) :
    ∀ slot, answer ≠ orderAlreadyActive slot ∧ (answer = .payable slot → slot = attempt.slot) := by
  obtain ⟨choice, code, middle, -, performed, checked⟩ := Solo.of_call solo
  obtain ⟨rfl, rfl⟩ := mk.inj (some.inj performed)
  intro slot
  by_cases passed : choice.code = ""
  · rw [if_pos passed] at checked
    obtain ⟨choice, reply, middle, -, created, answered⟩ := Solo.of_call checked
    simp only [perform] at created
    split at created
    · obtain ⟨rfl, rfl⟩ := mk.inj (some.inj created)
      obtain ⟨rfl, rfl⟩ := Solo.of_pure answered
      exact ⟨nofun, nofun⟩
    · rename_i taken _
      cases free.symm.trans taken
    · obtain ⟨row, -, same⟩ := map_eq_some_iff.mp created
      obtain ⟨rfl, rfl⟩ := mk.inj same
      by_cases answers : choice.fault = .none
      · rw [if_pos answers] at answered
        obtain ⟨blocked, middle, rechecked, handed⟩ := Solo.of_bind answered
        obtain ⟨-, failed⟩ := replacedRowsBlock_solo (fun old member => by
          obtain ⟨current, stands, still⟩ := closed old member
          have other : old ≠ attempt.slot := by
            rintro rfl
            cases free.symm.trans stands
          exact ⟨current, (update_of_ne other ..).trans stands, still⟩) rechecked
        cases blocked with
        | some block =>
          obtain ⟨rfl, rfl⟩ := Solo.of_pure handed
          rw [failed _ rfl]
          exact ⟨nofun, nofun⟩
        | none =>
          rw [fresh] at handed
          obtain ⟨rfl, rfl⟩ := Solo.of_pure handed
          exact ⟨nofun, fun same => (Answer.payable.inj same).symm⟩
      · rw [if_neg answers] at answered
        obtain ⟨rfl, rfl⟩ := Solo.of_pure answered
        exact ⟨nofun, nofun⟩
  · rw [if_neg passed] at checked
    obtain ⟨rfl, rfl⟩ := Solo.of_pure checked
    exact ⟨nofun, nofun⟩

/-! ## Reuse alone -/

/-- The call asks for the source that the order pays from, at the same price and refund address. -/
structure Request.Unchanged (request : Request) (row : Row) : Prop where
  price : request.pendingPricingMatches row = true
  refund : request.refundAddressReuseBlock row = false
  source : sourceDiffers (readRowSource row) request.source = false

theorem reuseOrder_solo {existing : Row} (unchanged : request.Unchanged existing)
    (solo : Solo (answeredAs scans) tid (reuseOrder request slot existing) world answer after) : answer = .payable slot := by
  simp only [reuseOrder, postRotationStatus, unchanged.price, unchanged.refund, unchanged.source, Bool.not_true,
    Bool.not_false, Bool.false_eq_true, if_false, if_true] at solo
  obtain ⟨rfl, rfl⟩ := Solo.of_pure solo
  rfl

/-- A switch that is refused otherwise names no other order as active. -/
theorem postRotationStatus_error {existing : Row} {refusal : Answer}
    (solo : Solo (answeredAs scans) tid (postRotationStatus request slot existing) world (.error refusal) after) :
    refusal = .refused 409 "PAYMENT_DETECTED" (some slot) ∨ refusal = orderLookupFailed := by
  unfold postRotationStatus at solo
  split at solo
  · cases (Solo.of_pure solo).1
  · split at solo
    · obtain ⟨row, middle, -, done⟩ := Solo.of_bind solo
      cases (Solo.of_pure done).1
    · obtain ⟨choice, reply, middle, -, -, switched⟩ := Solo.of_call solo
      cases reply with
      | rotated row => cases (Solo.of_pure switched).1
      | detected => exact .inl (Except.error.inj (Solo.of_pure switched).1)
      | refused code message =>
        dsimp only at switched
        split at switched
        · cases (Solo.of_pure switched).1
        · obtain ⟨row, middle, -, done⟩ := Solo.of_bind switched
          cases row with
          | none => exact .inr (Except.error.inj (Solo.of_pure done).1)
          | some row =>
            have ended := (Solo.of_pure done).1
            split at ended
            · exact .inr (Except.error.inj ended)
            · cases ended

theorem other_code {status : ℕ} {code : String} {order : Option Slot} (other : code ≠ "ORDER_ALREADY_ACTIVE") :
    Answer.refused status code order ≠ orderAlreadyActive slot :=
  fun same => other (Answer.refused.inj same).2.1

/-- Whatever becomes of a reuse, an order that it names as active or hands out is the reused one. -/
theorem reuseOrder_names {existing : Row}
    (solo : Solo (answeredAs scans) tid (reuseOrder request slot existing) world answer after) (named : Slot) :
    (answer = orderAlreadyActive named → named = slot) ∧ (answer = .payable named → named = slot) := by
  unfold reuseOrder at solo
  split at solo
  · obtain ⟨rfl, rfl⟩ := Solo.of_pure solo
    exact ⟨fun same => absurd same (other_code (by decide)), nofun⟩
  · split at solo
    · obtain ⟨rfl, rfl⟩ := Solo.of_pure solo
      exact ⟨fun same => absurd same (other_code (by decide)), nofun⟩
    · obtain ⟨result, middle, switched, done⟩ := Solo.of_bind solo
      cases result with
      | error refusal =>
        obtain ⟨rfl, rfl⟩ := Solo.of_pure done
        rcases postRotationStatus_error switched with rfl | rfl
        · exact ⟨fun same => absurd same (other_code (by decide)), nofun⟩
        · exact ⟨fun same => absurd same (other_code (by decide)), nofun⟩
      | ok status =>
        obtain ⟨rfl, rfl⟩ := Solo.of_pure done
        split
        · exact ⟨fun same => (some.inj (Answer.refused.inj same).2.2).symm, nofun⟩
        · exact ⟨nofun, fun same => (Answer.payable.inj same).symm⟩

/-! ## The call alone -/

/-- In the contract slots stand orders in contract mode only. -/
def Unmixed (world : World) : Prop :=
  ∀ variant row, world.orders (.contract variant) = some row → isContractRow row = true

variable {scan : Scan}

theorem existing_current (shows : Shows scan world) : findExistingOrder world.now (worldLookup world) =
      match current scan.entries with
      | none => .none
      | some (slot, row) => .found slot row (classifyOrderState world.now row) := by
  simp only [findExistingOrder, shows.existing, current]
  cases picked : pickCurrentOrder scan.entries with
  | none => simp only [map_none]
  | some order => simp only [map_some, placed]

theorem Shows.stands (shows : Shows scan world) (member : slot ∈ scan.allIds) :
    scan.scanned slot = .found row ↔ world.orders slot = some row := by
  rw [shows.scanned slot member, ← worldLookup_row world slot]
  constructor
  · intro found
    rw [found]
    rfl
  · exact row_found

/-- An order that the pick finds stands in its slot. -/
theorem Shows.shown_stands (shows : Shows scan world) {entry : OrderSlotEntry}
    (listed : (entry, row) ∈ scan.entries.filterMap shown) :
    entry.slot ∈ scan.allIds ∧ world.orders entry.slot = some row ∧ entry.live = isLive world.now row := by
  obtain ⟨other, member, same⟩ := mem_filterMap.mp listed
  obtain ⟨slot, asked, rfl⟩ := mem_map.mp member
  obtain ⟨present, found, pair⟩ := map_eq_some_iff.mp same
  obtain ⟨rfl, rfl⟩ := mk.inj pair
  refine ⟨asked, ?_, ?_⟩
  · have row := worldLookup_row world slot
    rw [← shows.scanned slot asked] at row
    exact row.symm.trans found
  · simp only [Scan.entry] at found ⊢
    rw [found, any_some, shows.time]

/-- Where no live order is found and the contract slots are unmixed, none of the slots holds a live order. -/
theorem none_stands_live (shows : Shows scan world) (unmixed : Unmixed world)
    (contract : liveContract scan.entries = none) (classic : liveClassic scan.entries = none)
    (member : slot ∈ scan.allIds) (stands : world.orders slot = some row) : isLive world.now row = false := by
  cases live : isLive world.now row with
  | false => rfl
  | true =>
    have found : scan.view slot = some (.found row) := by
      rw [Scan.view_of_mem member, (shows.stands member).mpr stands]
    obtain ⟨inContract, mode⟩ := Scan.none_live contract classic found (shows.time ▸ live)
    cases slot with
    | contract variant =>
      rw [unmixed variant row stands] at mode
      cases mode
    | _ => cases inContract

/-- Then the earlier orders are all that stand in the slots. -/
theorem previousRows_all (shows : Shows scan world) (unmixed : Unmixed world)
    (contract : liveContract scan.entries = none) (classic : liveClassic scan.entries = none) :
    previousRows scan.entries = (scan.entries.filterMap shown).map placed := by
  rw [previousRows, map_filterMap]
  apply filterMap_congr
  intro entry member
  cases present : entry.row with
  | none => simp [shown, present]
  | some row =>
    have listed : (entry, row) ∈ scan.entries.filterMap shown :=
      mem_filterMap.mpr ⟨entry, member, by rw [shown, present]; rfl⟩
    obtain ⟨asked, stands, live⟩ := shows.shown_stands listed
    rw [live, none_stands_live shows unmixed contract classic asked stands]
    simp [shown, placed, present]

theorem forall₂_split {A B : Type} {R : A → B → Prop} {left : List A} {front back : List B} {this : B}
    (all : List.Forall₂ R left (front ++ this :: back)) :
    ∃ before order after, left = before ++ order :: after ∧ List.Forall₂ R before front ∧ R order this := by
  obtain ⟨order, after, holds, -, rest⟩ := forall₂_cons_right_iff.mp (forall₂_drop_append _ _ _ all)
  exact ⟨left.take front.length, order, after, by rw [← rest, take_append_drop], forall₂_take_append _ _ _ all, holds⟩

theorem forall₂_mem {A B : Type} {R : A → B → Prop} {left : List A} {right : List B} (all : List.Forall₂ R left right)
    {this : A} (member : this ∈ left) : ∃ other ∈ right, R this other := by
  obtain ⟨before, after, rfl⟩ := append_of_mem member
  obtain ⟨front, other, back, rfl, -, holds⟩ := forall₂_split all.flip
  exact ⟨other, mem_append_right _ mem_cons_self, holds⟩

theorem funded_first {now : ℕ} {previous : List (Slot × Row)} {blocks : List (Option RelinkBlock)} {block : RelinkBlock}
    (judged : List.Forall₂ (Judged scans now) previous blocks) (strongest : worst blocks = some block) :
    ∃ row, (block.slot, row) ∈ previous ∧
      (block.reason = .previousOrderFunded →
        previous.find? (fun order => (rowFundingEvidence order.2).isSome) = some (block.slot, row)) ∧
      (block.reason = .previousOrderFundsFound → Unshown scans block.slot row) := by
  obtain ⟨-, front, back, rfl, first⟩ := (worst_spec blocks).2 block strongest
  obtain ⟨before, ⟨slot, row⟩, after, rfl, earlier, holds⟩ := forall₂_split judged
  obtain ⟨rfl, funded, found⟩ := holds.blocked block rfl
  refine ⟨row, mem_append_right _ (mem_cons_self ..), fun reason => ?_, found⟩
  apply find?_eq_some_iff_append.mpr
  refine ⟨funded reason, before, after, rfl, fun other member => ?_⟩
  cases evidence : (rowFundingEvidence other.2).isSome with
  | false => rfl
  | true =>
    obtain ⟨said, listed, judgedOther⟩ := forall₂_mem earlier member
    have weaker := first ⟨.previousOrderFunded, other.1⟩ (judgedOther.funded evidence ▸ listed)
    rw [reason] at weaker
    exact absurd weaker (Nat.lt_irrefl 3)

/-- A call without intent names an order in flight, reuses the live one, or goes on without one. -/
theorem respond_solo (noIntent : request.payinIntent = false)
    (solo : Solo (answeredAs scans) tid (respond request) world answer after) : ∃ scan, Shows scan world ∧
    ((∃ entry, inFlight scan.entries = some entry ∧ answer = orderAlreadyActive entry.slot) ∨
      inFlight scan.entries = none ∧
        ((∃ slot row, (liveClassic scan.entries).or (liveContract scan.entries) = some (slot, row) ∧
            Solo (answeredAs scans) tid (reuseOrder request slot row) world answer after) ∨
          (liveClassic scan.entries).or (liveContract scan.entries) = none ∧
            Solo (answeredAs scans) tid (carryOut request scan.now (freshCreate scan.entries
              ((Scan.candidates false scan).map scan.entry))) world answer after)) := by
  obtain ⟨scan, middle, scanned, rest⟩ := Solo.of_bind solo
  obtain ⟨rfl, shows⟩ := scanSlots_solo scanned
  refine ⟨scan, shows, ?_⟩
  have read : scan.failedLookup = false := by
    apply any_eq_false.mpr
    intro slot member
    rw [shows.scanned slot member, worldLookup_read]
    exact Bool.false_ne_true
  simp only [read, Bool.false_eq_true, if_false] at rest
  cases flying : inFlight scan.entries with
  | some entry =>
    rw [flying] at rest
    obtain ⟨rfl, rfl⟩ := Solo.of_pure rest
    exact .inl ⟨entry, rfl, rfl⟩
  | none =>
    rw [flying, noIntent] at rest
    refine .inr ⟨rfl, ?_⟩
    simp only [choosePlan, Bool.false_eq_true, if_false] at rest
    cases live : (liveClassic scan.entries).or (liveContract scan.entries) with
    | some order =>
      rw [live] at rest
      exact .inl ⟨order.1, order.2, rfl, rest⟩
    | none =>
      rw [live] at rest
      refine .inr ⟨rfl, ?_⟩
      rw [Scan.candidates, if_neg Bool.false_ne_true, ← Scan.entries_filter]
      exact rest

/-- What a call without a live order names, when nothing is in flight. -/
theorem fresh_solo (shows : Shows scan world)
    (solo : Solo (answeredAs scans) tid (carryOut request scan.now (freshCreate scan.entries
      ((Scan.candidates false scan).map scan.entry))) world answer after) (named : Slot) :
    (answer = orderAlreadyActive named → ∃ row, (named, row) ∈ previousRows scan.entries ∧
      ((previousRows scan.entries).find? (fun order => (rowFundingEvidence order.2).isSome) = some (named, row) ∨
        Unshown scans named row)) ∧
      (answer = .payable named → world.orders named = none) := by
  have standing : ∀ slot row, (slot, row) ∈ previousRows scan.entries → world.orders slot = some row := by
    intro slot row member
    obtain ⟨entry, listed, same⟩ := mem_filterMap.mp member
    split at same
    · cases same
    · obtain ⟨present, found, pair⟩ := map_eq_some_iff.mp same
      obtain ⟨rfl, rfl⟩ := mk.inj pair
      exact (shows.shown_stands (mem_filterMap.mpr ⟨entry, listed, by rw [shown, found]; rfl⟩)).2.1
  cases free : firstFree ((Scan.candidates false scan).map scan.entry) with
  | none =>
    simp only [freshCreate, free] at solo
    split at solo
    · obtain ⟨rfl, rfl⟩ := Solo.of_pure solo
      exact ⟨fun same => absurd same (other_code (by decide)), nofun⟩
    · obtain ⟨rfl, rfl⟩ := Solo.of_pure solo
      exact ⟨fun same => absurd same (other_code (by decide)), nofun⟩
  | some slot =>
    simp only [freshCreate, free] at solo
    obtain ⟨blocks, middle, guarded, rest⟩ := Solo.of_bind solo
    obtain ⟨rfl, judged⟩ := checkPreviousOrdersUnfunded_solo guarded
    cases strongest : worst blocks with
    | some block =>
      rw [strongest] at rest
      obtain ⟨rfl, rfl⟩ := Solo.of_pure rest
      obtain ⟨row, member, funded, found⟩ := funded_first judged strongest
      unfold relinkRefusal
      split
      · rename_i reason
        refine ⟨fun same => ?_, nofun⟩
        obtain rfl : block.slot = named := some.inj (Answer.refused.inj same).2.2
        refine ⟨row, member, ?_⟩
        rcases reason with evidence | scanned
        · exact .inl (funded evidence)
        · exact .inr (found scanned)
      · exact ⟨fun same => absurd same (other_code (by decide)), nofun⟩
    | none =>
      rw [strongest] at rest
      obtain ⟨empty, front, back, split, -⟩ := Scan.firstFree_some free
      have member : slot ∈ scan.allIds := by
        have chosen : slot ∈ Scan.candidates false scan := split ▸ mem_append_right _ (mem_cons_self ..)
        rw [Scan.candidates, if_neg Bool.false_ne_true] at chosen
        exact mem_of_mem_filter chosen
      have vacant : World.orders middle slot = none := by
        rw [← worldLookup_row, ← shows.scanned slot member]
        exact empty
      have clear := (worst_spec blocks).1 strongest
      have closed : ∀ old ∈ (previousRows scan.entries).map fst,
          ∃ row, World.orders middle old = some row ∧ revived (World.now middle) row = false := by
        intro old listed
        obtain ⟨⟨other, row⟩, previous, rfl⟩ := mem_map.mp listed
        obtain ⟨block, said, judgedRow⟩ := forall₂_mem judged previous
        exact ⟨row, standing other row previous, shows.time ▸ judgedRow.clear (clear block said)⟩
      obtain ⟨other, handed⟩ := createOrder_solo vacant rfl closed rest named
      refine ⟨fun same => absurd same other, fun same => ?_⟩
      rw [handed same]
      exact vacant

/-! ## Agreement -/

theorem classify_payable {now : ℕ} : classifyOrderState now row = .payable ↔
    row.status = some REUSABLE_PAYMENT_STATUS ∧ rowFundingEvidence row = none ∧ isLive now row = true := by
  unfold classifyOrderState
  by_cases unpaid : row.status = some REUSABLE_PAYMENT_STATUS
  · have kept : (row.status.any (· ∈ RETURNED_STATUSES)) = false := by
      rw [unpaid]
      decide
    rw [kept, if_neg Bool.false_ne_true, if_pos unpaid]
    cases evidence : rowFundingEvidence row <;> cases live : isLive now row <;> simp [unpaid]
  · simp only [unpaid, if_false, false_and, iff_false]
    split
    · nofun
    · split
      · nofun
      · split
        · nofun
        · nofun

variable {entries : List OrderSlotEntry}

theorem inFlight_row {entry : OrderSlotEntry} (flying : inFlight entries = some entry) :
    ∃ row, shown entry = some (entry, row) ∧ row.calm = false ∧ (entry, row) ∈ entries.filterMap shown := by
  unfold inFlight at flying
  have moving := find?_some flying
  obtain ⟨row, present, moves⟩ := (any_eq_true _ _).mp moving
  have appears : shown entry = some (entry, row) := by rw [shown, present]; rfl
  exact ⟨row, appears, by simpa using moves, mem_filterMap.mpr ⟨entry, mem_of_find?_eq_some flying, appears⟩⟩

theorem current_cases (picked : current entries = some (slot, row)) :
    (∃ entry, inFlight entries = some entry ∧ row.calm = false ∧ (entry, row) ∈ entries.filterMap shown ∧
      entry.slot = slot) ∨
      inFlight entries = none ∧ ((liveClassic entries).or (liveContract entries) = some (slot, row) ∨
        (liveClassic entries).or (liveContract entries) = none ∧ ∃ entry, (entry, row) ∈ entries.filterMap shown ∧
          entry.slot = slot) := by
  rw [current_eq] at picked
  cases flying : inFlight entries with
  | some entry =>
    obtain ⟨present, appears, moves, listed⟩ := inFlight_row flying
    rw [flying, bind_some, appears] at picked
    obtain ⟨same, rfl⟩ := mk.inj (some.inj picked)
    exact .inl ⟨entry, rfl, moves, listed, same⟩
  | none =>
    rw [flying, bind_none, none_or] at picked
    refine .inr ⟨rfl, ?_⟩
    rcases or_eq_some_iff.mp picked with live | ⟨none, rest⟩
    · exact .inl live
    · refine .inr ⟨none, ?_⟩
      rcases or_eq_some_iff.mp rest with funded | ⟨-, newest⟩
      · obtain ⟨⟨entry, present⟩, found, same⟩ := map_eq_some_iff.mp funded
        obtain ⟨rfl, rfl⟩ := mk.inj same
        exact ⟨entry, mem_of_find?_eq_some found, rfl⟩
      · obtain ⟨⟨entry, present⟩, found, same⟩ := map_eq_some_iff.mp newest
        obtain ⟨rfl, rfl⟩ := mk.inj same
        exact ⟨entry, mem_of_getLast? found, rfl⟩

theorem current_none (shows : Shows scan world) :
    current scan.entries = none ↔ ∀ slot, slot.isRetry = false → world.orders slot = none := by
  have empty : current scan.entries = none ↔ scan.entries.filterMap shown = [] := by
    rw [current_eq]
    constructor
    · intro none
      obtain ⟨-, rest⟩ := or_eq_none_iff.mp none
      obtain ⟨-, rest⟩ := or_eq_none_iff.mp rest
      obtain ⟨-, last⟩ := or_eq_none_iff.mp rest
      exact getLast?_eq_none_iff.mp (map_eq_none_iff.mp last)
    · intro nothing
      rw [← current_eq, current, pickCurrentOrder]
      simp only [show (scan.entries.filterMap fun entry => entry.row.map fun row => (entry, row)) = [] from nothing]
      rfl
  rw [empty, filterMap_eq_nil_iff]
  constructor
  · intro none slot first
    have member := shows.covers.first first
    have skipped := none (scan.entry slot) (mem_map_of_mem member)
    rw [← worldLookup_row, ← shows.scanned slot member]
    exact map_eq_none_iff.mp skipped
  · intro free entry member
    obtain ⟨slot, asked, rfl⟩ := mem_map.mp member
    have base : world.orders .base = none := free .base rfl
    have firstOnly : slot.isRetry = false := by
      rcases shows.covers with all | ⟨some, -⟩
      · have read := shows.existing
        simp only [scanOrderSlots, worldLookup_row, base, any_none, Bool.false_eq_true, if_false] at read
        split at read
        · cases read
        · have sizes := congrArg List.length (some.inj read)
          rw [Scan.entries, all, length_map, length_map] at sizes
          exact absurd sizes (by decide)
      · rw [some] at asked
        have within : ∀ slot ∈ firstIds, slot.isRetry = false := by decide
        exact within slot asked
    have vacant : (scan.scanned slot).row = none := by
      rw [shows.scanned slot asked, worldLookup_row]
      exact free slot firstOnly
    exact map_eq_none_iff.mpr vacant

theorem live_stands (shows : Shows scan world)
    (live : (liveClassic scan.entries).or (liveContract scan.entries) = some (slot, row)) :
    world.orders slot = some row ∧ isLive world.now row = true := by
  rcases or_eq_some_iff.mp live with classic | ⟨-, contract⟩
  · obtain ⟨found, alive, -, front, back, split, -⟩ := Scan.newest_some classic
    have member : slot ∈ scan.allIds := split ▸ mem_append_right _ (mem_cons_self ..)
    exact ⟨(shows.stands member).mp found, shows.time ▸ alive⟩
  · obtain ⟨found, alive, -, front, back, split, -⟩ := Scan.newest_some contract
    have member : slot ∈ scan.allIds := split ▸ mem_append_right _ (mem_cons_self ..)
    exact ⟨(shows.stands member).mp found, shows.time ▸ alive⟩

theorem current_stands (shows : Shows scan world)
    (picked : current scan.entries = some (slot, row)) : world.orders slot = some row := by
  rcases current_cases picked with ⟨entry, -, -, listed, rfl⟩ | ⟨-, live | ⟨-, entry, listed, rfl⟩⟩
  · exact (shows.shown_stands listed).2.1
  · exact (live_stands shows live).1
  · exact (shows.shown_stands listed).2.1

theorem current_live (still : inFlight entries = none) {order : Slot × Row}
    (live : (liveClassic entries).or (liveContract entries) = some order) : current entries = some order := by
  rw [current_eq, still, live]
  rfl

/-- With nothing in any slot that was read, the call goes on to the base slot. -/
theorem fresh_base (shows : Shows scan world)
    (free : ∀ slot, slot.isRetry = false → world.orders slot = none) (nothing : scan.entries.filterMap shown = []) :
    freshCreate scan.entries ((Scan.candidates false scan).map scan.entry) = .create .base [] := by
  obtain ⟨rest, start⟩ := Scan.candidates_base shows.covers false
  have vacant : (scan.entry .base).row.isNone = true := by
    have empty : (scan.scanned .base).row = none := by
      rw [shows.scanned .base (shows.covers.first rfl), worldLookup_row]
      exact free .base rfl
    simp only [Scan.entry, empty, isNone_none]
  have first : firstFree ((Scan.candidates false scan).map scan.entry) = some .base := by
    rw [start, firstFree, map_cons, find?_cons]
    simp only [vacant]
    rfl
  have previous : previousRows scan.entries = [] := by
    apply filterMap_eq_nil_iff.mpr
    intro entry member
    have skipped := filterMap_eq_nil_iff.mp nothing entry member
    have empty : entry.row = none := map_eq_none_iff.mp skipped
    rw [empty]
    exact ite_self none
  rw [freshCreate, first, previous]

/-- Read at one time, the read-only endpoint names the order that blocks a call without intent or that it reuses. -/
theorem existing_order_agrees {request : Request} {answer : Answer} (noIntent : request.payinIntent = false)
    (solo : Solo (answeredAs scans) tid (respond request) world answer after) :
    (∀ slot, answer = orderAlreadyActive slot → Unmixed world → ∃ row, world.orders slot = some row ∧
      (findExistingOrder world.now (worldLookup world) = .found slot row (classifyOrderState world.now row) ∨
        Unshown scans slot row)) ∧
    (∀ slot row, answer = .payable slot → world.orders slot = some row →
      findExistingOrder world.now (worldLookup world) = .found slot row (classifyOrderState world.now row)) ∧
    (∀ slot row state, findExistingOrder world.now (worldLookup world) = .found slot row state → Unmixed world →
      request.Unchanged row → (state = .payable ↔
        answer = .payable slot ∧ row.status = some REUSABLE_PAYMENT_STATUS ∧ rowFundingEvidence row = none)) ∧
    (findExistingOrder world.now (worldLookup world) = .none ↔
      ∀ slot, slot.isRetry = false → world.orders slot = none) ∧
    (findExistingOrder world.now (worldLookup world) = .none →
      Solo (answeredAs scans) tid (createOrder request ⟨.base, false, [], none⟩) world answer after) := by
  obtain ⟨scan, shows, outcome⟩ := respond_solo noIntent solo
  have existing := existing_current shows
  have found : ∀ slot row, current scan.entries = some (slot, row) →
      findExistingOrder world.now (worldLookup world) = .found slot row (classifyOrderState world.now row) := by
    intro slot row picked
    rw [existing, picked]
  have picks : ∀ slot row state, findExistingOrder world.now (worldLookup world) = .found slot row state →
      current scan.entries = some (slot, row) ∧ state = classifyOrderState world.now row := by
    intro slot row state same
    rw [existing] at same
    cases picked : current scan.entries with
    | none =>
      rw [picked] at same
      cases same
    | some order =>
      rw [picked] at same
      cases same
      exact ⟨rfl, rfl⟩
  have nothing : findExistingOrder world.now (worldLookup world) = .none ↔ current scan.entries = none := by
    rw [existing]
    cases picked : current scan.entries with
    | none => simp
    | some order => simp
  have standing : ∀ entry row, (entry, row) ∈ scan.entries.filterMap shown → world.orders entry.slot = some row :=
    fun entry row listed => (shows.shown_stands listed).2.1
  refine ⟨?_, ?_, ?_, ?_, ?_⟩
  · rintro slot rfl unmixed
    rcases outcome with ⟨entry, flying, same⟩ | ⟨still, ⟨reused, row, live, reuse⟩ | ⟨none, fresh⟩⟩
    · obtain rfl : slot = entry.slot := some.inj (Answer.refused.inj same).2.2
      obtain ⟨row, appears, -, listed⟩ := inFlight_row flying
      refine ⟨row, standing entry row listed, .inl (found _ _ ?_)⟩
      rw [current_eq, flying, bind_some, appears]
      rfl
    · obtain rfl := (reuseOrder_names reuse slot).1 rfl
      exact ⟨row, (live_stands shows live).1, .inl (found _ _ (current_live still live))⟩
    · obtain ⟨row, previous, evidence | closed⟩ := (fresh_solo shows fresh slot).1 rfl
      · obtain ⟨classic, contract⟩ := or_eq_none_iff.mp none
        rw [previousRows_all shows unmixed contract classic, find?_map] at evidence
        have picked : current scan.entries = some (slot, row) := by
          rw [current_eq, still, none, bind_none, none_or, none_or]
          exact or_eq_some_iff.mpr (.inl evidence)
        exact ⟨row, current_stands shows picked, .inl (found _ _ picked)⟩
      · refine ⟨row, ?_, .inr closed⟩
        obtain ⟨entry, member, same⟩ := mem_filterMap.mp previous
        split at same
        · cases same
        · obtain ⟨present, shows, pair⟩ := map_eq_some_iff.mp same
          obtain ⟨rfl, rfl⟩ := mk.inj pair
          exact standing entry present (mem_filterMap.mpr ⟨entry, member, by rw [shown, shows]; rfl⟩)
  · rintro slot row rfl stands
    rcases outcome with ⟨entry, -, same⟩ | ⟨still, ⟨reused, other, live, reuse⟩ | ⟨-, fresh⟩⟩
    · cases same
    · obtain rfl := (reuseOrder_names reuse slot).2 rfl
      obtain rfl := some.inj ((live_stands shows live).1.symm.trans stands)
      exact found _ _ (current_live still live)
    · cases ((fresh_solo shows fresh slot).2 rfl).symm.trans stands
  · intro slot row state same unmixed unchanged
    obtain ⟨picked, rfl⟩ := picks slot row state same
    rw [classify_payable]
    constructor
    · rintro ⟨unpaid, clean, alive⟩
      refine ⟨?_, unpaid, clean⟩
      rcases current_cases picked with ⟨entry, -, moving, -⟩ | ⟨still, live | ⟨none, entry, listed, rfl⟩⟩
      · simp [Row.calm, unpaid] at moving
      · rcases outcome with ⟨entry, flying, -⟩ | ⟨-, ⟨reused, other, chosen, reuse⟩ | ⟨none, -⟩⟩
        · cases still.symm.trans flying
        · obtain ⟨rfl, rfl⟩ := mk.inj (some.inj (live.symm.trans chosen))
          exact reuseOrder_solo unchanged reuse
        · cases live.symm.trans none
      · obtain ⟨member, stands, -⟩ := shows.shown_stands listed
        obtain ⟨classic, contract⟩ := or_eq_none_iff.mp none
        rw [none_stands_live shows unmixed contract classic member stands] at alive
        cases alive
    · rintro ⟨rfl, unpaid, clean⟩
      refine ⟨unpaid, clean, ?_⟩
      have stands := current_stands shows picked
      rcases outcome with ⟨entry, -, same⟩ | ⟨still, ⟨reused, other, live, reuse⟩ | ⟨-, fresh⟩⟩
      · cases same
      · obtain rfl := (reuseOrder_names reuse slot).2 rfl
        obtain ⟨same, alive⟩ := live_stands shows live
        obtain rfl := some.inj (same.symm.trans stands)
        exact alive
      · cases ((fresh_solo shows fresh slot).2 rfl).symm.trans stands
  · rw [nothing]
    exact current_none shows
  · intro none
    have free := (current_none shows).mp (nothing.mp none)
    have empty : scan.entries.filterMap shown = [] := by
      cases listed : scan.entries.filterMap shown with
      | nil => rfl
      | cons order rest =>
        have last : (scan.entries.filterMap shown).getLast? ≠ Option.none := by rw [listed]; simp
        have picked := nothing.mp none
        rw [current_eq] at picked
        obtain ⟨-, picked⟩ := or_eq_none_iff.mp picked
        obtain ⟨-, picked⟩ := or_eq_none_iff.mp picked
        obtain ⟨-, picked⟩ := or_eq_none_iff.mp picked
        exact absurd (map_eq_none_iff.mp picked) last
    rcases outcome with ⟨entry, flying, -⟩ | ⟨-, ⟨slot, row, live, -⟩ | ⟨-, fresh⟩⟩
    · obtain ⟨row, -, -, listed⟩ := inFlight_row flying
      rw [empty] at listed
      exact absurd listed not_mem_nil
    · have picked := nothing.mp none
      rw [current_eq] at picked
      obtain ⟨-, picked⟩ := or_eq_none_iff.mp picked
      cases (or_eq_none_iff.mp picked).1.symm.trans live
    · rw [fresh_base shows free empty] at fresh
      rw [← noIntent]
      exact fresh

end Solo

/-! ## Links read at time 100 -/

def baseUsdc : Request where
  source := { chainId := "8453", tokenSymbol := "USDC" }
  payinIntent := false
  lightningRotateOutEnabled := false
  pendingPricingMatches _ := true
  refundAddressMatches _ := true

def orderRow (status : String) (expiresAt : ℕ) : Row where
  status := some status
  expiresAt := some expiresAt
  chainId := some "8453"
  tokenSymbol := some "USDC"

def fundedRow : Row := { orderRow REUSABLE_PAYMENT_STATUS 1000 with funding := { sourceTxHash := some "0x1" } }

/-- A link whose slots hold these orders. -/
def linkWith (orders : List (Slot × Row)) : World := ⟨100, fun slot => orders.lookup slot⟩

/-- Nothing goes wrong, a new order takes this row, and the guard's scan says this. -/
def smooth (verdict : ScanVerdict) : List Choice :=
  List.replicate 20 { row := some (orderRow "" 1000), verdict := some verdict }

theorem solo_of_exec {world : World} {verdict : ScanVerdict} {answer : Answer}
    (executed : (soloExec (answeredAs fun _ => some verdict) 0 (smooth verdict) (respond baseUsdc) world).any
      (fun result => result.1 = answer) = true) : ∃ after,
      Solo (answeredAs fun _ => some verdict) 0 (respond baseUsdc) world answer after := by
  obtain ⟨⟨result, after⟩, ran, same⟩ := (any_eq_true _ _).mp executed
  obtain rfl : result = answer := of_decide_eq_true same
  exact ⟨after, soloExec_solo ran⟩

theorem live_base_agrees :
    findExistingOrder 100 (worldLookup (linkWith [(.base, orderRow REUSABLE_PAYMENT_STATUS 1000)])) =
      .found .base (orderRow REUSABLE_PAYMENT_STATUS 1000)
        (classifyOrderState 100 (orderRow REUSABLE_PAYMENT_STATUS 1000)) := by
  obtain ⟨after, solo⟩ := @solo_of_exec (linkWith [(.base, orderRow REUSABLE_PAYMENT_STATUS 1000)]) .nothingFound
    (.payable .base) (by decide +kernel)
  exact (existing_order_agrees rfl solo).2.1 .base _ rfl rfl

/-- A reused order with funding evidence is not payable; the guard's scan finds funds that no row shows; a contract slot
is taken while the base slot is free; and a live classic order in a contract slot is not looked at by the gate. -/
theorem gate_differs :
    (∃ after, Solo (answeredAs fun _ => some .nothingFound) 0 (respond baseUsdc) (linkWith [(.base, fundedRow)])
        (.payable .base) after ∧
      baseUsdc.Unchanged fundedRow ∧
      findExistingOrder 100 (worldLookup (linkWith [(.base, fundedRow)])) = .found .base fundedRow .funded) ∧
    (∃ after, Solo (answeredAs fun _ => some (.other "funds_found")) 0 (respond baseUsdc)
        (linkWith [(.base, orderRow PAYMENT_EXPIRED 10), (.retry 0, orderRow PAYMENT_EXPIRED 20)])
        (orderAlreadyActive .base) after ∧
      findExistingOrder 100 (worldLookup
        (linkWith [(.base, orderRow PAYMENT_EXPIRED 10), (.retry 0, orderRow PAYMENT_EXPIRED 20)])) =
          .found (.retry 0) (orderRow PAYMENT_EXPIRED 20) .ended) ∧
    (∃ after, Solo (answeredAs fun _ => some .nothingFound) 0 (respond baseUsdc)
        (linkWith [(.contract 0, orderRow PAYMENT_EXPIRED 10)]) (.payable .base) after ∧
      findExistingOrder 100 (worldLookup (linkWith [(.contract 0, orderRow PAYMENT_EXPIRED 10)])) =
        .found (.contract 0) (orderRow PAYMENT_EXPIRED 10) .ended) ∧
    ∃ after, Solo (answeredAs fun _ => some .nothingFound) 0 (respond baseUsdc)
        (linkWith [(.contract 0, orderRow REUSABLE_PAYMENT_STATUS 1000)]) (.payable .base) after ∧
      findExistingOrder 100 (worldLookup (linkWith [(.contract 0, orderRow REUSABLE_PAYMENT_STATUS 1000)])) =
        .found (.contract 0) (orderRow REUSABLE_PAYMENT_STATUS 1000) .payable := by
  refine ⟨?_, ?_, ?_, ?_⟩
  · obtain ⟨after, solo⟩ := @solo_of_exec (linkWith [(.base, fundedRow)]) .nothingFound (.payable .base) (by decide +kernel)
    exact ⟨after, solo, ⟨rfl, by decide +kernel, by decide +kernel⟩, by decide +kernel⟩
  · obtain ⟨after, solo⟩ := @solo_of_exec
      (linkWith [(.base, orderRow PAYMENT_EXPIRED 10), (.retry 0, orderRow PAYMENT_EXPIRED 20)]) (.other "funds_found")
      (orderAlreadyActive .base) (by decide +kernel)
    exact ⟨after, solo, by decide +kernel⟩
  · obtain ⟨after, solo⟩ := @solo_of_exec (linkWith [(.contract 0, orderRow PAYMENT_EXPIRED 10)]) .nothingFound
      (.payable .base) (by decide +kernel)
    exact ⟨after, solo, by decide +kernel⟩
  · obtain ⟨after, solo⟩ := @solo_of_exec (linkWith [(.contract 0, orderRow REUSABLE_PAYMENT_STATUS 1000)]) .nothingFound
      (.payable .base) (by decide +kernel)
    exact ⟨after, solo, by decide +kernel⟩

end MppRouter.Routes.Orders
