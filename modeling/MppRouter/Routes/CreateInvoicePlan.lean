import MppRouter.Routes.CreateInvoice

/-! # What the scan of a link makes a call do

The live orders of a scan decide whether the call reuses one, supersedes one or creates an order. What a call may
rely on when it creates one is said of the scanned slots, whatever was in them.
-/

namespace MppRouter.Routes.Orders

open List Bool

/-- What the scan showed of the slots, judged at this time, allows the attempt. -/
structure OneLive (now : ℕ) (seen : Slot → Option OrderLookup) (attempt : Attempt) : Prop where
  free : seen attempt.slot = some .missing
  /-- The base slot and the contract slots were read. -/
  scanned : ∀ slot, slot.isRetry = false → ∃ result, seen slot = some result ∧ result.failed = false
  /-- So were the re-order slots, once the base order was no longer live. -/
  rescanned : ∀ row, seen .base = some (.found row) → isLive now row = false →
    ∀ slot, ∃ result, seen slot = some result ∧ result.failed = false
  /-- Where the attempt supersedes nothing, no slot held a live order, classic rows of contract slots aside. -/
  fresh : attempt.superseded = none → ∀ slot row, seen slot = some (.found row) → isLive now row = true →
    slot.isContract = true ∧ isContractRow row = false
  /-- Then every slot that comes first was taken. -/
  taken : attempt.superseded = none → ∀ slot, slot.rank < attempt.slot.rank → ∃ row, seen slot = some (.found row)
  /-- A call with the contract intent supersedes the newest live classic order, where no live order is in contract mode. -/
  supersedes : ∀ classic, attempt.superseded = some classic →
    attempt.payinIntent = true ∧ attempt.slot.isContract = true ∧ classic.isContract = false ∧
      (∃ row, seen classic = some (.found row) ∧ isLive now row = true) ∧
      ∀ slot row, seen slot = some (.found row) → isLive now row = true →
        isContractRow row = false ∧ (slot.isContract = false → slot.rank ≤ classic.rank)
  /-- Without the intent, a contract slot is never taken. -/
  classic : attempt.payinIntent = false → attempt.slot.isContract = false

/-! ## What the scan shows -/

theorem row_found {result : OrderLookup} {row : Row} (shown : result.row = some row) : result = .found row := by
  cases result with
  | found other => exact congrArg OrderLookup.found (Option.some.inj shown)
  | missing | error => cases shown

theorem row_missing {result : OrderLookup} (empty : result.row = none) (read : result.failed = false) :
    result = .missing := by
  cases result with
  | found other => cases empty
  | missing => rfl
  | error => cases read

namespace Scan

variable {scan : Scan}

/-- The scanned slots with what was read of them. -/
def view (scan : Scan) (slot : Slot) : Option OrderLookup :=
  if slot ∈ scan.allIds then some (scan.scanned slot) else none

variable {slot : Slot} {row : Row}

theorem view_found (found : scan.view slot = some (.found row)) :
    slot ∈ scan.allIds ∧ scan.scanned slot = .found row := by
  unfold view at found
  split at found
  · exact ⟨‹_›, Option.some.inj found⟩
  · cases found

theorem view_of_mem (member : slot ∈ scan.allIds) : scan.view slot = some (scan.scanned slot) :=
  if_pos member

theorem read_of_mem (read : scan.failedLookup = false) (member : slot ∈ scan.allIds) :
    (scan.scanned slot).failed = false := by
  have none := any_eq_false.mp read slot member
  simpa using none

theorem newest_some {wanted : Slot → Row → Bool} (newest : newestLive scan.entries wanted = some (slot, row)) :
    scan.scanned slot = .found row ∧ isLive scan.now row = true ∧ wanted slot row = true ∧
      ∃ front back, scan.allIds = front ++ slot :: back ∧ ∀ other ∈ back, ∀ row, scan.scanned other = .found row →
        isLive scan.now row = true → wanted other row = false := by
  obtain ⟨after, entry, before, split, chosen, passed⟩ := findSome?_eq_some_iff.mp newest
  have order : scan.allIds.map scan.entry = before.reverse ++ entry :: after.reverse := by
    have reversed := congrArg List.reverse split
    simpa [entries] using reversed
  obtain ⟨front, rest, ids, fronts, rests⟩ := map_eq_append_iff.mp order
  obtain ⟨this, back, rfl, rfl, backs⟩ := map_eq_cons_iff.mp rests
  obtain ⟨shown, present, matched⟩ := Option.bind_eq_some_iff.mp chosen
  have found := row_found present
  split at matched
  · rename_i fits
    obtain ⟨rfl, rfl⟩ := Prod.mk.inj (Option.some.inj matched)
    obtain ⟨live, wants⟩ := and_eq_true_iff.mp fits
    refine ⟨found, ?_, wants, front, back, ids, ?_⟩
    · simpa [entry, found, OrderLookup.row] using live
    · intro other member row otherFound otherLive
      have skipped := passed (scan.entry other) (mem_reverse.mp (backs ▸ mem_map_of_mem member))
      simpa [entry, otherFound, OrderLookup.row, otherLive] using skipped
  · cases matched

theorem newest_none {wanted : Slot → Row → Bool} (newest : newestLive scan.entries wanted = none)
    (member : slot ∈ scan.allIds) (found : scan.scanned slot = .found row) (live : isLive scan.now row = true) :
    wanted slot row = false := by
  have skipped := findSome?_eq_none_iff.mp newest (scan.entry slot)
    (mem_reverse.mpr (mem_map_of_mem member))
  simpa [entry, found, OrderLookup.row, live] using skipped

theorem firstFree_some {ids : List Slot} (free : firstFree (ids.map scan.entry) = some slot) :
    (scan.scanned slot).row = none ∧ ∃ front back, ids = front ++ slot :: back ∧
      ∀ other ∈ front, ∃ row, scan.scanned other = .found row := by
  obtain ⟨entry, found, rfl⟩ := Option.map_eq_some_iff.mp free
  obtain ⟨empty, before, after, split, taken⟩ := find?_eq_some_iff_append.mp found
  obtain ⟨front, rest, ids, rfl, rests⟩ := map_eq_append_iff.mp split
  obtain ⟨this, back, rfl, rfl, -⟩ := map_eq_cons_iff.mp rests
  refine ⟨Option.isNone_iff_eq_none.mp empty, front, back, ids, fun other member => ?_⟩
  have full := taken (scan.entry other) (mem_map_of_mem member)
  cases shown : (scan.scanned other).row with
  | none => simp [entry, shown] at full
  | some row => exact ⟨row, row_found shown⟩

/-- Which slots a scan covers. -/
def Covers (scan : Scan) : Prop :=
  scan.allIds = firstIds ++ retryOrderIds ∨ scan.allIds = firstIds ∧ baseOver scan.now (scan.scanned .base) = false

theorem Covers.first (covers : scan.Covers) (first : slot.isRetry = false) : slot ∈ scan.allIds := by
  have always : ∀ slot : Slot, slot.isRetry = false → slot ∈ firstIds := by
    intro slot first
    cases slot with
    | base => decide
    | contract variant =>
      revert variant
      decide
    | retry variant => cases first
  rcases covers with all | ⟨some, -⟩
  · rw [all]
    exact mem_append_left _ (always slot first)
  · rw [some]
    exact always slot first

theorem Covers.all (covers : scan.Covers) (base : scan.scanned .base = .found row)
    (ended : isLive scan.now row = false) (slot : Slot) : slot ∈ scan.allIds := by
  rcases covers with all | ⟨-, standing⟩
  · rw [all]
    cases slot with
    | base => decide
    | contract variant | retry variant =>
      revert variant
      decide
  · rw [base] at standing
    simp [baseOver, OrderLookup.row, ended] at standing

/-- The slots that a fresh order goes through, in their order. -/
def candidates (payinIntent : Bool) (scan : Scan) : List Slot :=
  if payinIntent then
    scan.allIds.filter (· = .base) ++ scan.allIds.filter Slot.isRetry ++ scan.allIds.filter Slot.isContract
  else scan.allIds.filter (!·.isContract)

theorem candidates_sorted (covers : scan.Covers) (payinIntent : Bool) :
    (candidates payinIntent scan).Pairwise fun earlier later => earlier.rank < later.rank := by
  rcases covers with all | ⟨some, -⟩
  · unfold candidates
    rw [all]
    revert payinIntent
    decide
  · unfold candidates
    rw [some]
    revert payinIntent
    decide

theorem candidates_base (covers : scan.Covers) (payinIntent : Bool) :
    ∃ rest, candidates payinIntent scan = .base :: rest := by
  rcases covers with all | ⟨some, -⟩
  · unfold candidates
    rw [all]
    cases payinIntent with
    | false => exact ⟨_, rfl⟩
    | true => exact ⟨_, rfl⟩
  · unfold candidates
    rw [some]
    cases payinIntent with
    | false => exact ⟨_, rfl⟩
    | true => exact ⟨_, rfl⟩

/-- Once every slot is read, the candidates leave no earlier one out. -/
theorem candidates_all (all : scan.allIds = firstIds ++ retryOrderIds) (payinIntent : Bool) :
    ∀ slot ∈ candidates payinIntent scan, ∀ earlier ∈ scan.allIds, earlier.rank < slot.rank →
      earlier ∈ candidates payinIntent scan := by
  unfold candidates
  rw [all]
  revert payinIntent
  decide

variable {payinIntent : Bool}

/-- The first free slot comes after taken ones only. -/
theorem free_after (covers : scan.Covers)
    (base : ∀ row, scan.scanned .base = .found row → isLive scan.now row = false)
    (free : firstFree ((candidates payinIntent scan).map scan.entry) = some slot) {earlier : Slot}
    (first : earlier.rank < slot.rank) : ∃ row, scan.scanned earlier = .found row := by
  obtain ⟨-, front, back, split, taken⟩ := firstFree_some free
  cases shown : (scan.scanned .base).row with
  | none =>
    -- The base slot is free, and no slot comes before it.
    exfalso
    obtain ⟨rest, start⟩ := candidates_base covers payinIntent
    rw [start] at split
    cases front with
    | nil =>
      obtain ⟨rfl, -⟩ := cons.inj split
      exact Nat.not_lt_zero _ first
    | cons head front =>
      obtain ⟨rfl, -⟩ := cons.inj split
      obtain ⟨row, found⟩ := taken .base (mem_cons_self ..)
      rw [found] at shown
      cases shown
  | some row =>
    have found := row_found shown
    have listed : earlier ∈ candidates payinIntent scan := by
      rcases covers with all | ⟨-, standing⟩
      · apply candidates_all all payinIntent slot _ earlier _ first
        · rw [split]
          exact mem_append_right _ (mem_cons_self ..)
        · exact Covers.all (.inl all) found (base row found) earlier
      · rw [found] at standing
        simp [baseOver, OrderLookup.row, base row found] at standing
    have sorted := candidates_sorted covers payinIntent
    rw [split] at listed sorted
    rcases mem_append.mp listed with before | after
    · exact taken earlier before
    · rcases mem_cons.mp after with rfl | behind
      · omega
      · have later := (pairwise_cons.mp (pairwise_append.mp sorted).2.1).1 earlier behind
        omega

/-! ## What the plan comes from -/

theorem entries_filter (scan : Scan) (kind : Slot → Bool) :
    scan.entries.filter (fun entry => kind entry.slot) = (scan.allIds.filter kind).map scan.entry := by
  unfold entries
  rw [filter_map]
  rfl

variable {previous : List (Slot × Row)}

theorem freshCreate_create {entries others : List OrderSlotEntry}
    (plan : freshCreate entries others = .create slot previous) :
    firstFree others = some slot ∧ previous = previousRows entries := by
  unfold freshCreate at plan
  split at plan
  · split at plan
    · cases plan
    · cases plan
  · rename_i free
    cases plan
    exact ⟨free, rfl⟩

theorem freshCreate_other (entries others : List OrderSlotEntry) :
    (∀ slot row, freshCreate entries others ≠ .reuse slot row) ∧
      ∀ classic variant, freshCreate entries others ≠ .supersede classic variant := by
  unfold freshCreate
  split
  · split
    · exact ⟨fun _ _ same => Plan.noConfusion same, fun _ _ same => Plan.noConfusion same⟩
    · exact ⟨fun _ _ same => Plan.noConfusion same, fun _ _ same => Plan.noConfusion same⟩
  · exact ⟨fun _ _ same => Plan.noConfusion same, fun _ _ same => Plan.noConfusion same⟩

theorem plan_create (plan : choosePlan payinIntent scan.entries = .create slot previous) :
    liveContract scan.entries = none ∧ liveClassic scan.entries = none ∧
      firstFree ((candidates payinIntent scan).map scan.entry) = some slot ∧ previous = previousRows scan.entries := by
  unfold choosePlan at plan
  cases payinIntent with
  | true =>
    simp only [if_true] at plan
    split at plan
    · cases plan
    · split at plan
      · cases plan
      · cases plan
    · rename_i contract classic
      obtain ⟨free, same⟩ := freshCreate_create plan
      refine ⟨contract, classic, ?_, same⟩
      unfold candidates
      rw [if_pos rfl, map_append, map_append, ← entries_filter, ← entries_filter, ← entries_filter]
      exact free
  | false =>
    simp only [false_eq_true, if_false] at plan
    split at plan
    · cases plan
    · rename_i none
      obtain ⟨classic, contract⟩ := Option.or_eq_none_iff.mp none
      obtain ⟨free, same⟩ := freshCreate_create plan
      refine ⟨contract, classic, ?_, same⟩
      unfold candidates
      rw [if_neg Bool.false_ne_true, ← entries_filter]
      exact free

theorem plan_supersede {classic variant : Slot}
    (plan : choosePlan payinIntent scan.entries = .supersede classic variant) :
    payinIntent = true ∧ liveContract scan.entries = none ∧ (∃ row, liveClassic scan.entries = some (classic, row)) ∧
      firstFree ((scan.allIds.filter Slot.isContract).map scan.entry) = some variant := by
  unfold choosePlan at plan
  cases payinIntent with
  | true =>
    simp only [if_true] at plan
    split at plan
    · cases plan
    · rename_i contract live
      split at plan
      · cases plan
      · rename_i free
        cases plan
        rw [entries_filter] at free
        exact ⟨rfl, contract, ⟨_, live⟩, free⟩
    · exact absurd plan ((freshCreate_other ..).2 _ _)
  | false =>
    simp only [false_eq_true, if_false] at plan
    split at plan
    · cases plan
    · exact absurd plan ((freshCreate_other ..).2 _ _)

theorem plan_reuse (plan : choosePlan payinIntent scan.entries = .reuse slot row) :
    liveContract scan.entries = some (slot, row) ∨ liveClassic scan.entries = some (slot, row) := by
  unfold choosePlan at plan
  cases payinIntent with
  | true =>
    simp only [if_true] at plan
    split at plan
    · rename_i live
      cases plan
      exact .inl live
    · split at plan
      · cases plan
      · cases plan
    · exact absurd plan ((freshCreate_other ..).1 _ _)
  | false =>
    simp only [false_eq_true, if_false] at plan
    split at plan
    · rename_i live
      cases plan
      rcases Option.or_eq_some_iff.mp live with classic | ⟨-, contract⟩
      · exact .inr classic
      · exact .inl contract
    · exact absurd plan ((freshCreate_other ..).1 _ _)

theorem reused (plan : choosePlan payinIntent scan.entries = .reuse slot row) :
    slot ∈ scan.allIds ∧ scan.scanned slot = .found row := by
  rcases plan_reuse plan with live | live
  · obtain ⟨found, -, -, front, back, split, -⟩ := newest_some live
    exact ⟨split ▸ mem_append_right _ (mem_cons_self ..), found⟩
  · obtain ⟨found, -, -, front, back, split, -⟩ := newest_some live
    exact ⟨split ▸ mem_append_right _ (mem_cons_self ..), found⟩

/-! ## What a create may rely on -/

theorem view_read (covers : scan.Covers) (read : scan.failedLookup = false) :
    (∀ slot : Slot, slot.isRetry = false → ∃ result, scan.view slot = some result ∧ result.failed = false) ∧
      ∀ row, scan.view .base = some (.found row) → isLive scan.now row = false →
        ∀ slot, ∃ result, scan.view slot = some result ∧ result.failed = false := by
  constructor
  · intro slot first
    have member := covers.first first
    exact ⟨_, view_of_mem member, read_of_mem read member⟩
  · intro row base ended slot
    have member := covers.all (view_found base).2 ended slot
    exact ⟨_, view_of_mem member, read_of_mem read member⟩

/-- Without a live order in contract mode, and none that is classic, only classic rows of contract slots are live. -/
theorem none_live (contract : liveContract scan.entries = none) (classic : liveClassic scan.entries = none)
    (found : scan.view slot = some (.found row)) (live : isLive scan.now row = true) :
    slot.isContract = true ∧ isContractRow row = false := by
  obtain ⟨member, shown⟩ := view_found found
  have notContract : isContractRow row = false := newest_none contract member shown live
  have notClassic := newest_none classic member shown live
  simp only [notContract, Bool.not_false, Bool.true_and, not_eq_false'] at notClassic
  exact ⟨notClassic, notContract⟩

theorem create_one (covers : scan.Covers) (read : scan.failedLookup = false)
    (plan : choosePlan payinIntent scan.entries = .create slot previous) :
    OneLive scan.now scan.view ⟨slot, payinIntent, previous.map Prod.fst, none⟩ := by
  obtain ⟨contract, classic, free, rfl⟩ := plan_create plan
  obtain ⟨empty, front, back, split, -⟩ := firstFree_some free
  have chosen : slot ∈ candidates payinIntent scan := split ▸ mem_append_right _ (mem_cons_self ..)
  have member : slot ∈ scan.allIds := by
    unfold candidates at chosen
    split at chosen
    · simp only [mem_append, mem_filter] at chosen
      rcases chosen with (base | retry) | contract
      · exact base.1
      · exact retry.1
      · exact contract.1
    · exact mem_of_mem_filter chosen
  obtain ⟨scanned, rescanned⟩ := view_read covers read
  constructor
  · rw [view_of_mem member, row_missing empty (read_of_mem read member)]
  · exact scanned
  · exact rescanned
  · intro _ other row found live
    exact none_live contract classic found live
  · intro _ earlier (first : earlier.rank < slot.rank)
    have base : ∀ row, scan.scanned .base = .found row → isLive scan.now row = false := by
      intro row found
      cases live : isLive scan.now row with
      | false => rfl
      | true =>
        have listed : scan.view .base = some (.found row) := by
          rw [view_of_mem (covers.first rfl), found]
        cases (none_live contract classic listed live).1
    obtain ⟨row, found⟩ := free_after covers base free first
    refine ⟨row, ?_⟩
    rw [← found]
    apply view_of_mem
    cases retry : earlier.isRetry with
    | false => exact covers.first retry
    | true =>
      obtain ⟨first, taken⟩ := free_after covers base free (show Slot.base.rank < slot.rank from by
        have low : Slot.base.rank = 0 := rfl
        omega)
      exact covers.all taken (base first taken) earlier
  · intro _ same
    cases same
  · intro intent
    subst intent
    unfold candidates at chosen
    rw [if_neg Bool.false_ne_true] at chosen
    simpa using (mem_filter.mp chosen).2

/-- Outside the contract slots, a scan comes by the slots in the order of their ranks. -/
theorem classic_sorted (covers : scan.Covers) :
    scan.allIds.Pairwise fun earlier later => earlier.isContract = false → later.isContract = false →
      earlier.rank < later.rank := by
  rcases covers with all | ⟨some, -⟩
  · rw [all]
    decide
  · rw [some]
    decide

theorem supersede_one (covers : scan.Covers) (read : scan.failedLookup = false)
    {classic variant : Slot} (plan : choosePlan payinIntent scan.entries = .supersede classic variant) :
    OneLive scan.now scan.view ⟨variant, payinIntent, [], some classic⟩ := by
  obtain ⟨rfl, contract, ⟨row, live⟩, free⟩ := plan_supersede plan
  obtain ⟨found, standing, wanted, front, back, split, newest⟩ := newest_some live
  obtain ⟨empty, before, after, chosen, -⟩ := firstFree_some free
  have listed : variant ∈ scan.allIds.filter Slot.isContract := chosen ▸ mem_append_right _ (mem_cons_self ..)
  obtain ⟨member, variantContract⟩ := mem_filter.mp listed
  obtain ⟨scanned, rescanned⟩ := view_read covers read
  obtain ⟨-, classicSlot⟩ := and_eq_true_iff.mp wanted
  have plain : classic.isContract = false := by simpa using classicSlot
  constructor
  · rw [view_of_mem member, row_missing empty (read_of_mem read member)]
  · exact scanned
  · exact rescanned
  · intro none
    cases none
  · intro none
    cases none
  · intro other same
    obtain rfl : classic = other := Option.some.inj same
    refine ⟨rfl, variantContract, plain, ⟨row, ?_, standing⟩, ?_⟩
    · rw [← found]
      exact view_of_mem (split ▸ mem_append_right _ (mem_cons_self ..))
    · intro slot row shown alive
      obtain ⟨slotMember, slotFound⟩ := view_found shown
      have mode : isContractRow row = false := newest_none contract slotMember slotFound alive
      refine ⟨mode, fun plainSlot => ?_⟩
      have sorted := classic_sorted covers
      rw [split] at slotMember sorted
      rcases mem_append.mp slotMember with earlier | rest
      · have order := (pairwise_append.mp sorted).2.2 slot earlier classic (mem_cons_self ..)
        exact Nat.le_of_lt (order plainSlot plain)
      · rcases mem_cons.mp rest with rfl | later
        · exact le_rfl
        · have skipped := newest slot later row slotFound alive
          simp [mode, plainSlot] at skipped
  · intro intent
    cases intent

end Scan

end MppRouter.Routes.Orders
