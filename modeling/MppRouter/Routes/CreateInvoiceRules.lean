import MppRouter.Routes.CreateInvoicePlan

/-! # What a call has read when it acts

Two rules for a call: what its scan must have shown when it creates an order, and what its reads and re-checks must
have shown when it hands an order out. The call is walked once to see that it keeps to both.
-/

namespace MppRouter.Routes.Orders

open Concurrent Machine List Option Function

/-! ## The past of a call -/

/-- What a call did so far with the answers, newest first. -/
abbrev Past := List (Deed orderMachine)

def lookupOf (slot : Slot) : Deed orderMachine → Option OrderLookup
  | ⟨.lookupOrder _, (read, result)⟩ => if read.1 = slot then some result else none
  | _ => none

def recheckOf (slot : Slot) : Deed orderMachine → Option (Option Row)
  | ⟨.refetchPaymentRow _, (read, row)⟩ => if read.1 = slot then some row else none
  | _ => none

/-- The row of a slot, where a read or a switch shows it. -/
def sightOf (slot : Slot) : Deed orderMachine → Option Row
  | ⟨.lookupOrder _, (read, result)⟩ => if read.1 = slot then result.row else none
  | ⟨.refetchPaymentRow _, (read, row)⟩ => if read.1 = slot then row else none
  | ⟨.rotateExistingSource switched _, .rotated row⟩ => if switched = slot then some row else none
  | _ => none

def clockOf : Deed orderMachine → Option ℕ
  | ⟨.now, time⟩ => some time
  | _ => none

def attemptOf : Deed orderMachine → Option (Attempt × CreateReply)
  | ⟨.createOrder attempt, reply⟩ => some (attempt, reply)
  | _ => none

/-- The order that the upstream was asked in vain to switch. -/
def failedSwitchOf : Deed orderMachine → Option Slot
  | ⟨.rotateExistingSource slot _, .refused _ _⟩ => some slot
  | _ => none

/-- The last lookup of a slot. -/
def lookedUp (slot : Slot) (past : Past) : Option OrderLookup := past.findSome? (lookupOf slot)

/-- The call sets out to create an order or to switch one. -/
def Action.writes : Action → Bool
  | .createOrder _ | .rotateExistingSource _ _ => true
  | _ => false

/-- What the call did since it last set out to create or switch an order. -/
def sinceWrite (past : Past) : Past := past.takeWhile fun deed => !deed.1.writes

/-- The last re-check of an order since then: the row it read, or nothing where it failed. -/
def lastRecheck (slot : Slot) (past : Past) : Option (Option Row) := (sinceWrite past).findSome? (recheckOf slot)

/-- The row of a slot as the call saw it last. -/
def lastSight (slot : Slot) (past : Past) : Option Row := past.findSome? (sightOf slot)

/-- When the call looked at the clock last. -/
def clock (past : Past) : Option ℕ := past.findSome? clockOf

/-- The orders that the call set out to create. -/
def attempts (past : Past) : List (Attempt × CreateReply) := past.filterMap attemptOf

def failedSwitches (past : Past) : List Slot := past.filterMap failedSwitchOf

/-! ## The rules -/

/-- What the reads and re-checks showed allows to hand out the order. -/
structure OneRail (slot : Slot) (past : Past) : Prop where
  /-- The call created it, or last saw it with no status of money that moves. -/
  named : (∃ attempt row, (attempt, .created row) ∈ attempts past ∧ attempt.slot = slot) ∨
    ∃ row, lastSight slot past = some row ∧ row.calm = true
  /-- A replaced order was read again after the attempt, as expired or unpaid. -/
  replaced : ∀ attempt reply, (attempt, reply) ∈ attempts past → ∀ old ∈ attempt.replaced,
    ∃ row, lastRecheck old past = some (some row) ∧
      (row.status = some PAYMENT_EXPIRED ∨ row.status = some REUSABLE_PAYMENT_STATUS)
  /-- A superseded order was read again after the attempt; where that showed a status, it was unpaid. -/
  superseded : ∀ attempt reply, (attempt, reply) ∈ attempts past → ∀ classic, attempt.superseded = some classic →
    ∃ read, lastRecheck classic past = some read ∧
      ∀ status, read.bind Row.status = some status → status = REUSABLE_PAYMENT_STATUS
  /-- Where the upstream failed to switch it, it was read again with success after that. -/
  switched : slot ∈ failedSwitches past → ∃ row, lastRecheck slot past = some (some row)

/-- What a call may create and hand out. -/
def soleRule : Rule orderMachine
  | past, .createOrder attempt => ∃ now, clock past = some now ∧ OneLive now (fun slot => lookedUp slot past) attempt
  | past, .answer (.payable slot) => OneRail slot past
  | _, _ => True

/-- The calls in progress keep to the rules. -/
abbrev Keeps {α : Type} (program : Flow α) (post : α → Past → Prop) (past : Past) : Prop :=
  (audit soleRule).Follows program post past

section

variable {α β : Type}

theorem keeps_ask {action : Action} {next : action.Answer → Flow α} {post : α → Past → Prop} {past : Past}
    (allowed : soleRule past action) (later : ∀ answer, Keeps (next answer) post (⟨action, answer⟩ :: past)) :
    Keeps (ask action >>= next) post past := ⟨allowed, later⟩

theorem keeps_bind {program : Flow α} {next : α → Flow β} {mid : α → Past → Prop} {post : β → Past → Prop} {past : Past}
    (first : Keeps program mid past) (later : ∀ value past, mid value past → Keeps (next value) post past) :
    Keeps (program >>= next) post past :=
  Typestate.Follows.bind (first.mono later)

end

/-! ## The scan -/

/-- A scan looks up these slots and the clock. -/
def Looks (ids : List Slot) : Action → Prop
  | .lookupOrder waiting => waiting ⊆ ids
  | .now => True
  | _ => False

theorem Looks.mono {ids more : List Slot} (subset : ids ⊆ more) {action : Action} (looks : Looks ids action) :
    Looks more action := by
  cases action with
  | lookupOrder waiting => exact List.Subset.trans looks subset
  | now => trivial
  | _ => cases looks

def Scanning (ids : List Slot) (scanned : Slot → OrderLookup) (past : Past) : Prop :=
  (∀ slot, scanned slot = (lookedUp slot past).getD (.error none)) ∧ ∀ deed ∈ past, Looks ids deed.1

theorem Scanning.begin (ids : List Slot) : Scanning ids (fun _ => .error none) [] :=
  ⟨fun _ => rfl, fun _ member => absurd member not_mem_nil⟩

variable {scanned : Slot → OrderLookup} {past : Past}

theorem Scanning.mono {ids more : List Slot} (subset : ids ⊆ more)
    (scanning : Scanning ids scanned past) : Scanning more scanned past :=
  ⟨scanning.1, fun deed member => (scanning.2 deed member).mono subset⟩

theorem Scanning.ticked {ids : List Slot} (now : ℕ)
    (scanning : Scanning ids scanned past) : Scanning ids scanned (⟨.now, now⟩ :: past) := by
  refine ⟨fun slot => scanning.1 slot, fun deed member => ?_⟩
  rcases mem_cons.mp member with rfl | earlier
  · trivial
  · exact scanning.2 deed earlier

theorem Scanning.looked {ids waiting : List Slot} (within : waiting ⊆ ids)
    (slot : { slot // slot ∈ waiting }) (result : OrderLookup) (scanning : Scanning ids scanned past) :
    Scanning ids (update scanned slot result) (⟨.lookupOrder waiting, (slot, result)⟩ :: past) := by
  constructor
  · intro other
    by_cases same : slot.1 = other
    · subst same
      simp [lookedUp, lookupOf]
    · have untouched := scanning.1 other
      simpa [lookedUp, lookupOf, same, update_of_ne (Ne.symm same)] using untouched
  · intro deed member
    rcases mem_cons.mp member with rfl | earlier
    · exact within
    · exact scanning.2 deed earlier

theorem lookupAll_keeps {ids waiting : List Slot} (pending : ℕ)
    (within : waiting ⊆ ids) (scanning : Scanning ids scanned past) :
    Keeps (lookupAll pending waiting scanned) (Scanning ids) past := by
  induction pending generalizing waiting scanned past with
  | zero => exact scanning
  | succ pending ih =>
    apply keeps_ask
    · trivial
    rintro ⟨slot, result⟩
    apply ih
    · exact List.Subset.trans erase_subset within
    · exact scanning.looked within slot result

/-- What a scan knows of the slots. -/
structure Scanned (scan : Scan) (past : Past) : Prop where
  scanning : Scanning scan.allIds scan.scanned past
  judged : clock past = some scan.now
  ids : scan.allIds = firstIds ++ retryOrderIds ∨
    scan.allIds = firstIds ∧ baseOver scan.now (scan.scanned .base) = false

theorem scanSlots_keeps : Keeps scanSlots Scanned [] := by
  apply keeps_bind (lookupAll_keeps firstIds.length (List.Subset.refl _) (Scanning.begin firstIds))
  intro first past scanning
  apply keeps_ask
  · trivial
  intro now
  cases ended : baseOver now (first .base) with
  | false => exact ⟨scanning.ticked now, rfl, .inr ⟨rfl, ended⟩⟩
  | true =>
    have further : Scanning (firstIds ++ retryOrderIds) first (⟨.now, now⟩ :: past) :=
      (scanning.mono (subset_append_left ..)).ticked now
    apply keeps_bind (lookupAll_keeps retryOrderIds.length (subset_append_right ..) further)
    intro scanned past rescanning
    apply keeps_ask
    · trivial
    intro later
    exact ⟨rescanning.ticked later, rfl, .inl rfl⟩

/-! ## What re-checks leave alone -/

/-- Re-checks of these orders, looks at the clock and verdicts of the guard. -/
def Rereads (ids : List Slot) : Action → Prop
  | .refetchPaymentRow waiting => waiting ⊆ ids
  | .scanVerdict _ | .now => True
  | _ => False

/-- The past grew by re-checks of these orders. -/
def Grown (ids : List Slot) (before after : Past) : Prop :=
  ∃ new, after = new ++ before ∧ ∀ deed ∈ new, Rereads ids deed.1

namespace Grown

variable {ids : List Slot} {before after : Past}

theorem refl (ids : List Slot) (past : Past) : Grown ids past past :=
  ⟨[], rfl, fun _ member => absurd member not_mem_nil⟩

theorem cons {deed : Deed orderMachine} (rereads : Rereads ids deed.1) (grown : Grown ids before after) :
    Grown ids before (deed :: after) := by
  obtain ⟨new, rfl, kinds⟩ := grown
  refine ⟨deed :: new, rfl, fun other member => ?_⟩
  rcases mem_cons.mp member with rfl | earlier
  · exact rereads
  · exact kinds other earlier

theorem attempts_eq (grown : Grown ids before after) : attempts after = attempts before := by
  obtain ⟨new, rfl, kinds⟩ := grown
  have none : new.filterMap attemptOf = [] := by
    apply filterMap_eq_nil_iff.mpr
    rintro ⟨action, answer⟩ member
    have kind := kinds _ member
    cases action with
    | createOrder => cases kind
    | _ => rfl
  rw [attempts, filterMap_append, none]
  rfl

theorem failedSwitches_eq (grown : Grown ids before after) : failedSwitches after = failedSwitches before := by
  obtain ⟨new, rfl, kinds⟩ := grown
  have none : new.filterMap failedSwitchOf = [] := by
    apply filterMap_eq_nil_iff.mpr
    rintro ⟨action, answer⟩ member
    have kind := kinds _ member
    cases action with
    | rotateExistingSource => cases kind
    | _ => rfl
  rw [failedSwitches, filterMap_append, none]
  rfl

theorem lastRecheck_eq (grown : Grown ids before after) {slot : Slot} (other : slot ∉ ids) :
    lastRecheck slot after = lastRecheck slot before := by
  obtain ⟨new, rfl, kinds⟩ := grown
  have reads : ∀ deed ∈ new, (!deed.1.writes) = true := by
    rintro ⟨action, answer⟩ member
    have kind := kinds _ member
    cases action with
    | createOrder | rotateExistingSource => cases kind
    | _ => rfl
  have none : new.findSome? (recheckOf slot) = none := by
    apply findSome?_eq_none_iff.mpr
    rintro ⟨action, answer⟩ member
    have kind := kinds _ member
    cases action with
    | refetchPaymentRow waiting =>
      have distinct : answer.1.1 ≠ slot := fun same => other (same ▸ kind answer.1.2)
      exact if_neg distinct
    | _ => rfl
  rw [lastRecheck, sinceWrite, takeWhile_append_of_pos reads, findSome?_append, none, none_or]
  rfl

theorem lastSight_eq (grown : Grown ids before after) {slot : Slot} (other : slot ∉ ids) :
    lastSight slot after = lastSight slot before := by
  obtain ⟨new, rfl, kinds⟩ := grown
  have none : new.findSome? (sightOf slot) = none := by
    apply findSome?_eq_none_iff.mpr
    rintro ⟨action, answer⟩ member
    have kind := kinds _ member
    cases action with
    | refetchPaymentRow waiting =>
      have distinct : answer.1.1 ≠ slot := fun same => other (same ▸ kind answer.1.2)
      exact if_neg distinct
    | lookupOrder | rotateExistingSource => cases kind
    | _ => rfl
  rw [lastSight, findSome?_append, none, none_or]
  rfl

end Grown

/-! ## The re-checks -/

theorem lastRecheck_cons {waiting : List Slot} (slot : Slot) (read : { slot // slot ∈ waiting }) (row : Option Row)
    (past : Past) : lastRecheck slot (⟨.refetchPaymentRow waiting, (read, row)⟩ :: past) =
      if read.1 = slot then some row else lastRecheck slot past := by
  by_cases same : read.1 = slot
  · simp [lastRecheck, sinceWrite, Action.writes, recheckOf, same]
  · simp [lastRecheck, sinceWrite, Action.writes, recheckOf, same]

/-- A lookup that finds an order sees it, whatever the clock says then. -/
theorem lastSight_looked {waiting : List Slot} (now : ℕ) (read : { slot // slot ∈ waiting }) (row : Row) (past : Past) :
    lastSight read.1 (⟨.now, now⟩ :: ⟨.lookupOrder waiting, (read, .found row)⟩ :: past) = some row := by
  have sight : sightOf read.1 ⟨.lookupOrder waiting, (read, .found row)⟩ = some row := if_pos rfl
  rw [lastSight, findSome?_cons_of_isNone rfl, findSome?_cons, sight]

theorem refetchPaymentRow_keeps {α : Type} (slot : Slot) {next : Option Row → Flow α} {post : α → Past → Prop}
    (later : ∀ row after, Grown [slot] past after → lastRecheck slot after = some row →
      (∀ shown, row = some shown → lastSight slot after = some shown) →
      (row = none → lastSight slot after = lastSight slot past) → Keeps (next row) post after) :
    Keeps (refetchPaymentRow slot >>= next) post past := by
  apply keeps_ask
  · trivial
  rintro ⟨⟨read, listed⟩, row⟩
  obtain rfl : read = slot := mem_singleton.mp listed
  apply later
  · exact (Grown.refl [read] past).cons (List.Subset.refl [read])
  · exact (lastRecheck_cons read ⟨read, listed⟩ row past).trans (if_pos rfl)
  · rintro shown rfl
    simp [lastSight, sightOf]
  · rintro rfl
    simp [lastSight, sightOf]

theorem refetchAll_keeps {ids waiting : List Slot} (pending : ℕ) {rows : Slot → Option Row} {before : Past}
    (within : waiting ⊆ ids) (grown : Grown ids before past)
    (known : ∀ slot row, rows slot = some row → lastRecheck slot past = some (some row)) :
    Keeps (refetchAll pending waiting rows) (fun rows after => Grown ids before after ∧
      ∀ slot row, rows slot = some row → lastRecheck slot after = some (some row)) past := by
  induction pending generalizing waiting rows past with
  | zero => exact ⟨grown, known⟩
  | succ pending ih =>
    apply keeps_ask
    · trivial
    rintro ⟨read, row⟩
    apply ih
    · exact List.Subset.trans erase_subset within
    · exact grown.cons within
    · intro slot shown
      rw [lastRecheck_cons]
      by_cases same : read.1 = slot
      · rw [if_pos same, ← same, update_self]
        rintro rfl
        rfl
      · rw [if_neg same, update_of_ne (Ne.symm same)]
        exact known slot shown

theorem zecQuoteExpiredUnfunded_unpaid {now : ℕ} {row : Row} (expired : zecQuoteExpiredUnfunded now row = true) :
    row.status = some REUSABLE_PAYMENT_STATUS := by
  simp only [zecQuoteExpiredUnfunded, Bool.and_eq_true, decide_eq_true_eq] at expired
  exact expired.1.1.1.1

/-- No answer of a block hands an order out. -/
def Withholds (blocked : Option Answer) : Prop := ∀ slot, blocked ≠ some (.payable slot)

theorem withholds_none : Withholds none := fun _ same => some_ne_none _ same.symm

theorem replacedRowsBlock_keeps (replaced : List Slot) (past : Past) :
    Keeps (replacedRowsBlock replaced) (fun blocked after => Grown replaced past after ∧ Withholds blocked ∧
      (blocked = none → ∀ old ∈ replaced, ∃ row, lastRecheck old after = some (some row) ∧
        (row.status = some PAYMENT_EXPIRED ∨ row.status = some REUSABLE_PAYMENT_STATUS))) past := by
  cases replaced with
  | nil => exact ⟨.refl _ _, withholds_none, fun _ _ member => absurd member not_mem_nil⟩
  | cons head tail =>
    unfold replacedRowsBlock
    apply keeps_bind (refetchAll_keeps (head :: tail).length (List.Subset.refl _) (.refl _ past)
      fun _ _ same => absurd same (some_ne_none _).symm)
    intro rows after ⟨grown, known⟩
    apply keeps_ask
    · trivial
    intro now
    refine ⟨grown.cons trivial, ?_, ?_⟩
    · intro slot same
      split at same
      · cases same
      · obtain ⟨_, -, other⟩ := map_eq_some_iff.mp same
        cases other
    · intro passed old member
      split at passed
      · cases passed
      · rename_i read
        have shown := any_eq_false.mp (Bool.eq_false_iff.mpr read) old member
        have closed := find?_eq_none.mp (map_eq_none_iff.mp passed) old member
        cases present : rows old with
        | none => simp [present] at shown
        | some row =>
          refine ⟨row, known old row present, ?_⟩
          simp only [present, any_some, revived, Bool.and_eq_true, not_and] at closed
          by_cases expired : row.status = some PAYMENT_EXPIRED
          · exact .inl expired
          · have quote := closed (by simpa using expired)
            exact .inr (zecQuoteExpiredUnfunded_unpaid (by simpa using quote))

theorem supersededBlock_keeps (superseded : Option Slot) (past : Past) :
    Keeps (supersededBlock superseded) (fun blocked after => Grown superseded.toList past after ∧ Withholds blocked ∧
      (blocked = none → ∀ classic, superseded = some classic → ∃ read, lastRecheck classic after = some read ∧
        ∀ status, read.bind Row.status = some status → status = REUSABLE_PAYMENT_STATUS)) past := by
  cases superseded with
  | none => exact ⟨.refl _ _, withholds_none, fun _ _ same => absurd same (some_ne_none _).symm⟩
  | some classic =>
    apply refetchPaymentRow_keeps
    intro row after grown recheck _ _
    refine ⟨grown, ?_, ?_⟩
    · intro slot same
      split at same
      · cases same
      · cases same
    · intro passed other same
      obtain rfl : classic = other := some.inj same
      refine ⟨row, recheck, fun status known => ?_⟩
      split at passed
      · cases passed
      · rename_i unpaid
        simpa [known] using unpaid

/-! ## Reuse -/

/-- An answer that hands an order out may do so. -/
def HandsOut (answer : Answer) (past : Past) : Prop := ∀ slot, answer = .payable slot → OneRail slot past

theorem refused_handsOut (status : ℕ) (code : String) (order : Option Slot) (past : Past) :
    HandsOut (.refused status code order) past :=
  fun _ same => Answer.noConfusion same

theorem relinkRefusal_handsOut (block : RelinkBlock) (past : Past) : HandsOut (relinkRefusal block) past := by
  unfold relinkRefusal
  split
  · exact refused_handsOut _ _ _ _
  · exact refused_handsOut _ _ _ _

theorem blocked_handsOut {blocked : Answer} (withholds : Withholds (some blocked)) : HandsOut blocked past :=
  fun slot same => absurd (congrArg some same) (withholds slot)

theorem calm_of_status {row : Row} (known : ∀ status, row.status = some status → status = REUSABLE_PAYMENT_STATUS) :
    row.calm = true := by
  cases status : row.status with
  | none => simp [Row.calm, status]
  | some value =>
    obtain rfl := known value status
    simp [Row.calm, status]

/-- The status gate of a switch never proves an order unpaid. -/
theorem terminal_ne {code : String} {message : Option String} {status : String}
    (terminal : terminalRotationRefusalStatus code message = some status) : status ≠ REUSABLE_PAYMENT_STATUS := by
  unfold terminalRotationRefusalStatus at terminal
  split at terminal
  · cases terminal
  · have listed := mem_of_find?_eq_some terminal
    rintro rfl
    revert listed
    decide

/-- What a call knows before it reuses the order in a slot. -/
structure Reusing (slot : Slot) (past : Past) : Prop where
  attempts : attempts past = []
  failedSwitches : failedSwitches past = []
  sight : ∃ row, lastSight slot past = some row ∧ row.calm = true

/-- Where a status after the switch passes, the order may be handed out. -/
def Passes (slot : Slot) (result : Except Answer (Option String)) (past : Past) : Prop :=
  match result with
  | .error refusal => HandsOut refusal past
  | .ok status => (∀ value, status = some value → value = REUSABLE_PAYMENT_STATUS) → OneRail slot past

/-- Without an attempt, it is enough to see the order calm. -/
theorem OneRail.of_sight {slot : Slot} (none : attempts past = [])
    (sight : ∃ row, lastSight slot past = some row ∧ row.calm = true)
    (switched : slot ∈ failedSwitches past → ∃ row, lastRecheck slot past = some (some row)) : OneRail slot past where
  named := .inr sight
  replaced := by
    intro attempt reply member
    rw [none] at member
    exact absurd member not_mem_nil
  superseded := by
    intro attempt reply member
    rw [none] at member
    exact absurd member not_mem_nil
  switched := switched

theorem postRotationStatus_keeps (request : Request) {slot : Slot} (existing : Row)
    (reusing : Reusing slot past) : Keeps (postRotationStatus request slot existing) (Passes slot) past := by
  obtain ⟨noAttempts, noSwitches, sight⟩ := reusing
  unfold postRotationStatus
  split
  · intro _
    apply OneRail.of_sight noAttempts sight
    rw [noSwitches]
    exact fun member => absurd member not_mem_nil
  · split
    · apply refetchPaymentRow_keeps
      intro row after grown recheck shown unknown passes
      apply OneRail.of_sight (grown.attempts_eq.trans noAttempts)
      · cases row with
        | none =>
          rw [unknown rfl]
          exact sight
        | some row => exact ⟨row, shown row rfl, calm_of_status passes⟩
      · rw [grown.failedSwitches_eq, noSwitches]
        exact fun member => absurd member not_mem_nil
    · apply keeps_ask
      · trivial
      intro reply
      cases reply with
      | rotated row =>
        intro passes
        apply OneRail.of_sight
        · exact noAttempts
        · exact ⟨row, by simp [lastSight, sightOf], calm_of_status passes⟩
        · intro member
          have none : slot ∈ failedSwitches past := member
          rw [noSwitches] at none
          exact absurd none not_mem_nil
      | detected => exact refused_handsOut _ _ _ _
      | refused code message =>
        cases terminal : terminalRotationRefusalStatus code message with
        | some status =>
          simp only [terminal]
          intro passes
          exact absurd (passes status rfl) (terminal_ne terminal)
        | none =>
          simp only [terminal]
          apply refetchPaymentRow_keeps
          intro row after grown recheck shown _
          cases row with
          | none => exact refused_handsOut _ _ _ _
          | some row =>
            cases known : row.chainId.isNone with
            | true =>
              simp only [known, if_true]
              exact refused_handsOut _ _ _ _
            | false =>
              simp only [known, Bool.false_eq_true, if_false]
              intro passes
              apply OneRail.of_sight
              · exact grown.attempts_eq.trans noAttempts
              · exact ⟨row, shown row rfl, calm_of_status passes⟩
              · exact fun _ => ⟨row, recheck⟩

theorem reuseOrder_keeps (request : Request) {slot : Slot} (existing : Row) (reusing : Reusing slot past) :
    Keeps (reuseOrder request slot existing) HandsOut past := by
  unfold reuseOrder
  split
  · exact refused_handsOut _ _ _ _
  · split
    · exact refused_handsOut _ _ _ _
    · apply keeps_bind (postRotationStatus_keeps request existing reusing)
      intro result after passes
      cases result with
      | error refusal => exact passes
      | ok status =>
        intro other same
        split at same
        · cases same
        · rename_i unpaid
          cases same
          apply passes
          rintro value rfl
          simpa using unpaid

/-! ## Create -/

/-- What a call has settled before it creates an order. -/
structure Creating (attempt : Attempt) (past : Past) : Prop where
  one : ∃ now, clock past = some now ∧ OneLive now (fun slot => lookedUp slot past) attempt
  attempts : attempts past = []
  failedSwitches : failedSwitches past = []
  own : attempt.slot ∉ attempt.replaced
  other : attempt.superseded ≠ some attempt.slot
  alone : attempt.replaced = [] ∨ attempt.superseded = none

/-- The re-checks of a replaced order and of a superseded one that pass. -/
def ReplacedFine (attempt : Attempt) (past : Past) : Prop :=
  ∀ old ∈ attempt.replaced, ∃ row, lastRecheck old past = some (some row) ∧
    (row.status = some PAYMENT_EXPIRED ∨ row.status = some REUSABLE_PAYMENT_STATUS)

def SupersededFine (attempt : Attempt) (past : Past) : Prop :=
  ∀ classic, attempt.superseded = some classic → ∃ read, lastRecheck classic past = some read ∧
    ∀ status, read.bind Row.status = some status → status = REUSABLE_PAYMENT_STATUS

variable {attempt : Attempt}

/-- With one attempt, its re-checks and a sight of its slot suffice. -/
theorem OneRail.of_attempt {reply : CreateReply}
    (once : attempts past = [(attempt, reply)]) (switches : failedSwitches past = [])
    (named : (∃ row, reply = .created row) ∨ ∃ row, lastSight attempt.slot past = some row ∧ row.calm = true)
    (replaced : ReplacedFine attempt past) (superseded : SupersededFine attempt past) : OneRail attempt.slot past where
  named := by
    rcases named with ⟨row, rfl⟩ | sight
    · refine .inl ⟨attempt, row, ?_, rfl⟩
      rw [once]
      exact mem_singleton.mpr rfl
    · exact .inr sight
  replaced := by
    intro other answer member
    rw [once] at member
    obtain ⟨rfl, rfl⟩ := Prod.mk.inj (mem_singleton.mp member)
    exact replaced
  superseded := by
    intro other answer member
    rw [once] at member
    obtain ⟨rfl, rfl⟩ := Prod.mk.inj (mem_singleton.mp member)
    exact superseded
  switched := by
    rw [switches]
    exact fun member => absurd member not_mem_nil

/-- Further re-checks of the superseded order leave those of the replaced ones alone. -/
theorem ReplacedFine.grown {before after : Past} (fine : ReplacedFine attempt before)
    (alone : attempt.replaced = [] ∨ attempt.superseded = none) (grown : Grown attempt.superseded.toList before after) :
    ReplacedFine attempt after := by
  intro old member
  rcases alone with empty | none
  · rw [empty] at member
    exact absurd member not_mem_nil
  · rw [none] at grown
    rw [grown.lastRecheck_eq not_mem_nil]
    exact fine old member

theorem SupersededFine.grown {before after : Past} (fine : SupersededFine attempt before)
    (alone : attempt.replaced = [] ∨ attempt.superseded = none) (grown : Grown attempt.replaced before after) :
    SupersededFine attempt after := by
  intro classic same
  rcases alone with empty | none
  · rw [empty] at grown
    rw [grown.lastRecheck_eq not_mem_nil]
    exact fine classic same
  · rw [none] at same
    cases same

theorem handOutWinner_keeps (request : Request) {reply : CreateReply} {winner : Row}
    (once : attempts past = [(attempt, reply)]) (switches : failedSwitches past = [])
    (own : attempt.slot ∉ attempt.replaced) (alone : attempt.replaced = [] ∨ attempt.superseded = none)
    (sight : lastSight attempt.slot past = some winner) (calm : winner.calm = true)
    (superseded : SupersededFine attempt past) : Keeps (handOutWinner request attempt winner) HandsOut past := by
  apply keeps_bind (replacedRowsBlock_keeps attempt.replaced past)
  intro blocked after ⟨grown, withholds, passed⟩
  cases blocked with
  | some blocked => exact blocked_handsOut withholds
  | none =>
    intro slot same
    have rail : OneRail attempt.slot after := by
      apply OneRail.of_attempt (grown.attempts_eq.trans once) (grown.failedSwitches_eq.trans switches)
      · exact .inr ⟨winner, (grown.lastSight_eq own).trans sight, calm⟩
      · exact passed rfl
      · exact superseded.grown alone grown
    split at same
    · cases same
    · split at same
      · cases same
      · split at same
        · cases same
        · cases same
          exact rail

theorem lostRace_keeps (request : Request) {reply : CreateReply}
    (once : attempts past = [(attempt, reply)]) (switches : failedSwitches past = [])
    (own : attempt.slot ∉ attempt.replaced) (alone : attempt.replaced = [] ∨ attempt.superseded = none) :
    Keeps (lostRace request attempt) HandsOut past := by
  apply keeps_bind (supersededBlock_keeps attempt.superseded past)
  intro blocked checked ⟨grown, withholds, passed⟩
  cases blocked with
  | some blocked => exact blocked_handsOut withholds
  | none =>
    apply keeps_ask
    · trivial
    rintro ⟨⟨read, listed⟩, result⟩
    obtain rfl : read = attempt.slot := mem_singleton.mp listed
    apply keeps_ask
    · trivial
    intro now
    cases result with
    | missing | error => exact refused_handsOut _ _ _ _
    | found winner =>
      cases valid : winnerValid now winner with
      | false =>
        simp only [valid]
        exact refused_handsOut _ _ _ _
      | true =>
        simp only [valid, if_true]
        have unpaid : winner.status = some REUSABLE_PAYMENT_STATUS := by
          simp only [winnerValid, Bool.and_eq_true, decide_eq_true_eq] at valid
          exact valid.1.2
        let looked : Past :=
          ⟨.now, now⟩ :: ⟨.lookupOrder [attempt.slot], (⟨attempt.slot, listed⟩, .found winner)⟩ :: checked
        have onceStill : attempts looked = [(attempt, reply)] := grown.attempts_eq.trans once
        have switchesStill : failedSwitches looked = [] := grown.failedSwitches_eq.trans switches
        apply @handOutWinner_keeps looked attempt request reply winner onceStill switchesStill own alone
        · exact lastSight_looked ..
        · simp [Row.calm, unpaid]
        · exact passed rfl

theorem createOrder_keeps (request : Request) (creating : Creating attempt past) :
    Keeps (createOrder request attempt) HandsOut past := by
  obtain ⟨one, noAttempts, noSwitches, own, -, alone⟩ := creating
  apply keeps_ask
  · trivial
  intro code
  cases code with
  | some code => exact refused_handsOut _ _ _ _
  | none =>
    apply keeps_ask
    · exact one
    intro reply
    have once : attempts (⟨.createOrder attempt, reply⟩ :: ⟨.checkLink, none⟩ :: past) = [(attempt, reply)] :=
      congrArg ((attempt, reply) :: ·) noAttempts
    cases reply with
    | failed => exact refused_handsOut _ _ _ _
    | conflict => exact lostRace_keeps request once noSwitches own alone
    | created row =>
      apply keeps_bind (replacedRowsBlock_keeps attempt.replaced _)
      intro blocked checked ⟨grown, withholds, replaced⟩
      cases blocked with
      | some blocked => exact blocked_handsOut withholds
      | none =>
        apply keeps_bind (supersededBlock_keeps attempt.superseded checked)
        intro blocked after ⟨grownAgain, withholds, superseded⟩
        cases blocked with
        | some blocked => exact blocked_handsOut withholds
        | none =>
          intro slot same
          cases same
          apply OneRail.of_attempt (grownAgain.attempts_eq.trans (grown.attempts_eq.trans once))
            (grownAgain.failedSwitches_eq.trans (grown.failedSwitches_eq.trans noSwitches))
          · exact .inl ⟨row, rfl⟩
          · exact ReplacedFine.grown (replaced rfl) alone grownAgain
          · exact superseded rfl

/-! ## The call -/

def IsVerdict : Action → Prop
  | .scanVerdict _ => True
  | _ => False

theorem verdicts_allowed (past : Past) (action : Action) (verdict : IsVerdict action) : soleRule past action := by
  cases action with
  | scanVerdict => trivial
  | _ => cases verdict

theorem checkPreviousOrdersUnfunded_performs (now : ℕ) (previous : List (Slot × Row)) :
    (checkPreviousOrdersUnfunded now previous).Performs IsVerdict := by
  induction previous with
  | nil => trivial
  | cons head rows ih =>
    obtain ⟨slot, row⟩ := head
    apply Prog.Performs.bind
    · unfold checkPreviousOrderUnfunded
      split
      · trivial
      · split
        · trivial
        · split
          · trivial
          · exact ⟨trivial, fun _ => trivial⟩
    · intro reason
      exact Prog.Performs.bind ih fun _ => trivial

theorem Creating.verdicts {new : Past} (creating : Creating attempt past)
    (verdicts : ∀ deed ∈ new, IsVerdict deed.1) : Creating attempt (new ++ past) := by
  have none : ∀ {B : Type} (view : Deed orderMachine → Option B),
      (∀ slot answer, view ⟨.scanVerdict slot, answer⟩ = none) → ∀ deed ∈ new, view deed = none := by
    intro B view blind
    rintro ⟨action, answer⟩ member
    have verdict := verdicts _ member
    cases action with
    | scanVerdict slot => exact blind slot answer
    | _ => cases verdict
  have found : ∀ {B : Type} (view : Deed orderMachine → Option B),
      (∀ slot answer, view ⟨.scanVerdict slot, answer⟩ = Option.none) →
      (new ++ past).findSome? view = past.findSome? view := by
    intro B view blind
    rw [findSome?_append, findSome?_eq_none_iff.mpr (none view blind), none_or]
  have kept : ∀ {B : Type} (view : Deed orderMachine → Option B),
      (∀ slot answer, view ⟨.scanVerdict slot, answer⟩ = Option.none) →
      (new ++ past).filterMap view = past.filterMap view := by
    intro B view blind
    rw [filterMap_append, filterMap_eq_nil_iff.mpr (none view blind), nil_append]
  obtain ⟨now, judged, one⟩ := creating.one
  have same : (fun slot => lookedUp slot (new ++ past)) = fun slot => lookedUp slot past :=
    funext fun slot => found (lookupOf slot) fun _ _ => rfl
  refine ⟨⟨now, (found clockOf fun _ _ => rfl).trans judged, ?_⟩, ?_, ?_, creating.own, creating.other, creating.alone⟩
  · rw [same]
    exact one
  · exact (kept attemptOf fun _ _ => rfl).trans creating.attempts
  · exact (kept failedSwitchOf fun _ _ => rfl).trans creating.failedSwitches

theorem Scanned.seen {scan : Scan} (scanned : Scanned scan past) (read : scan.failedLookup = false)
    (slot : Slot) : lookedUp slot past = scan.view slot := by
  obtain ⟨⟨known, within⟩, -, -⟩ := scanned
  by_cases member : slot ∈ scan.allIds
  · rw [Scan.view_of_mem member]
    cases looked : lookedUp slot past with
    | some result =>
      rw [known slot, looked]
      rfl
    | none =>
      have readable := Scan.read_of_mem read member
      rw [known slot, looked] at readable
      cases readable
  · rw [Scan.view, if_neg member]
    apply findSome?_eq_none_iff.mpr
    rintro ⟨action, answer⟩ done
    have looks := within _ done
    cases action with
    | lookupOrder waiting =>
      have distinct : answer.1.1 ≠ slot := fun same => member (same ▸ looks answer.1.2)
      exact if_neg distinct
    | _ => rfl

/-- A scan creates nothing, switches nothing, and sees what it looks up. -/
theorem Scanned.still {scan : Scan} (scanned : Scanned scan past) : attempts past = [] ∧ failedSwitches past = [] ∧
      ∀ slot row, lookedUp slot past = some (.found row) → lastSight slot past = some row := by
  have within := scanned.scanning.2
  refine ⟨?_, ?_, ?_⟩
  · apply filterMap_eq_nil_iff.mpr
    rintro ⟨action, answer⟩ done
    have looks := within _ done
    cases action with
    | createOrder => cases looks
    | _ => rfl
  · apply filterMap_eq_nil_iff.mpr
    rintro ⟨action, answer⟩ done
    have looks := within _ done
    cases action with
    | rotateExistingSource => cases looks
    | _ => rfl
  · intro slot row found
    obtain ⟨later, deed, earlier, rfl, shown, passed⟩ := findSome?_eq_some_iff.mp found
    apply findSome?_eq_some_iff.mpr
    refine ⟨later, deed, earlier, rfl, ?_, ?_⟩
    · obtain ⟨action, answer⟩ := deed
      cases action with
      | lookupOrder waiting =>
        simp only [lookupOf] at shown
        split at shown
        · rename_i same
          obtain ⟨read, result⟩ := answer
          obtain rfl : result = .found row := some.inj shown
          exact if_pos same
        · cases shown
      | _ => cases shown
    · rintro ⟨action, answer⟩ done
      have looks := within _ (mem_append_left _ done)
      have skipped := passed _ done
      cases action with
      | lookupOrder waiting =>
        simp only [lookupOf] at skipped
        split at skipped
        · cases skipped
        · rename_i distinct
          exact if_neg distinct
      | rotateExistingSource | refetchPaymentRow => cases looks
      | _ => rfl

theorem calm_of_scan {scan : Scan} (still : inFlight scan.entries = none) {slot : Slot} {row : Row}
    (member : slot ∈ scan.allIds) (found : scan.scanned slot = .found row) : row.calm = true := by
  have passed := find?_eq_none.mp still (scan.entry slot) (mem_map_of_mem member)
  simpa [Scan.entry, found, OrderLookup.row] using passed

theorem carryOut_keeps (request : Request) {scan : Scan} (scanned : Scanned scan past)
    (read : scan.failedLookup = false) (still : inFlight scan.entries = none) :
    Keeps (carryOut request scan.now (choosePlan request.payinIntent scan.entries)) HandsOut past := by
  obtain ⟨noAttempts, noSwitches, sight⟩ := scanned.still
  have view : (fun slot => lookedUp slot past) = scan.view := funext (scanned.seen read)
  have covers : scan.Covers := scanned.ids
  cases plan : choosePlan request.payinIntent scan.entries with
  | refuse code => exact refused_handsOut _ _ _ _
  | reuse slot existing =>
    obtain ⟨member, found⟩ := Scan.reused plan
    have looked : lookedUp slot past = some (.found existing) := by
      rw [scanned.seen read, Scan.view_of_mem member, found]
    exact reuseOrder_keeps request existing
      ⟨noAttempts, noSwitches, existing, sight slot existing looked, calm_of_scan still member found⟩
  | supersede classic variant =>
    have one := Scan.supersede_one covers read plan
    have distinct : classic ≠ variant := by
      rintro rfl
      have facts := one.supersedes classic rfl
      exact Bool.false_ne_true (facts.2.2.1.symm.trans facts.2.1)
    apply createOrder_keeps
    refine ⟨⟨scan.now, scanned.judged, ?_⟩, noAttempts, noSwitches, not_mem_nil, ?_, .inl rfl⟩
    · rw [view]
      exact one
    · exact fun same => distinct (some.inj same)
  | create slot previous =>
    have one := Scan.create_one covers read plan
    have creating : Creating ⟨slot, request.payinIntent, previous.map Prod.fst, none⟩ past := by
      refine ⟨⟨scan.now, scanned.judged, ?_⟩, noAttempts, noSwitches, ?_, (some_ne_none _).symm, .inr rfl⟩
      · rw [view]
        exact one
      · -- A replaced order stands in its slot, and the slot of the attempt is free.
        intro member
        obtain ⟨-, -, -, rfl⟩ := Scan.plan_create plan
        obtain ⟨⟨other, row⟩, previous, same⟩ := mem_map.mp member
        obtain rfl : other = slot := same
        obtain ⟨entry, listed, shown⟩ := mem_filterMap.mp previous
        obtain ⟨asked, scannedSlot, rfl⟩ := mem_map.mp listed
        split at shown
        · cases shown
        · obtain ⟨present, found, pair⟩ := map_eq_some_iff.mp shown
          obtain ⟨rfl, rfl⟩ := Prod.mk.inj pair
          have free : scan.view asked = some .missing := one.free
          rw [Scan.view_of_mem scannedSlot] at free
          have missing : scan.scanned asked = .missing := some.inj free
          have none : (scan.scanned asked).row = none := by rw [missing]; rfl
          cases none.symm.trans found
    apply keeps_bind (Typestate.Follows.grows verdicts_allowed
      (checkPreviousOrdersUnfunded_performs scan.now previous) past)
    rintro blocks _ ⟨new, rfl, verdicts⟩
    cases blocked : worst blocks with
    | some block => exact relinkRefusal_handsOut block _
    | none => exact createOrder_keeps request (creating.verdicts verdicts)

theorem respond_keeps (request : Request) : Keeps (respond request) HandsOut [] := by
  apply keeps_bind scanSlots_keeps
  intro scan past scanned
  cases read : scan.failedLookup with
  | true => exact refused_handsOut _ _ _ _
  | false =>
    simp only [Bool.false_eq_true, if_false]
    cases still : inFlight scan.entries with
    | some entry => exact refused_handsOut _ _ _ _
    | none => exact carryOut_keeps request scanned read still

theorem handleCreateInvoice_keeps (request : Request) : Keeps (handleCreateInvoice request) anyhow [] := by
  apply keeps_bind (respond_keeps request)
  intro answer past handsOut
  apply keeps_ask
  · cases answer with
    | payable slot => exact handsOut slot rfl
    | refused => trivial
  · exact fun _ => trivial

theorem surroundings_keeps (events : List Happening) (past : Past) :
    Keeps (surroundings events) anyhow past := by
  induction events generalizing past with
  | nil => trivial
  | cons event events ih =>
    cases event with
    | tick elapsed => exact ⟨trivial, fun _ => ih _⟩
    | change slot row => exact ⟨trivial, fun _ => ih _⟩

theorem Party.keeps (party : Party) : Keeps party.program anyhow [] := by
  cases party with
  | idle => trivial
  | caller request => exact handleCreateInvoice_keeps request
  | surroundings events => exact surroundings_keeps events []

/-- In every interleaving, each call keeps to the rules. -/
theorem rules_obeyed {world : World} {parties : ℕ → Party} {after : (recorded orderMachine).Config}
    (run : Run (unrestricted orderMachine).recorded (invoicing world parties).unrecorded after) (tid : ℕ) :
    Obeys soleRule (after.world.2 tid) :=
  audited (fun tid => (parties tid).keeps) run tid

end MppRouter.Routes.Orders
